import Instrument.Proofs.AnalogFrames

/-!
# Samples as they are read

A read of a register of pins shows the level that each pin has at that moment and zeros
above them, and a read of a register over the latch shows the bytes latched at that moment.
The layout has room for all of them, so nothing is cut off.  The bytes after the first
element of a register of pins are those it started with, whatever was read before.
-/

namespace Instrument

namespace Controller

variable {β : Type} [PinDriver β]

theorem testBit_pinBits (pins : β) (inputs : List Pin) (position : Nat) :
    (pinBits pins inputs).testBit position = inputs[position]?.any (PinDriver.read pins) := by
  induction inputs generalizing position with
  | nil => exact Nat.zero_testBit position
  | cons pin rest induction =>
      rw [pinBits]
      cases position with
      | zero =>
          rw [Nat.testBit_zero, List.getElem?_cons_zero, Option.any_some]
          cases PinDriver.read pins pin with
          | false => simp
          | true => simp
      | succ position =>
          have half : ((PinDriver.read pins pin).toNat + 2 * pinBits pins rest) / 2 =
              pinBits pins rest := by
            have small := Bool.toNat_lt (PinDriver.read pins pin)
            omega
          rw [Nat.testBit_succ, half, induction, List.getElem?_cons_succ]

/-- No step changes the bytes after the first element of a register of pins. -/
theorem drop_held_step {layout : Layout} {controller : Controller β}
    (same : controller.layout = layout) {index : Fin layout.size} {inputs : List Pin}
    (behaviour : (layout.register index).behaviour = .pins inputs) (operation : Operation β) :
    ((controller.step operation).held layout index).drop
        (layout.register index).descriptor.kind.width =
      (controller.held layout index).drop (layout.register index).descriptor.kind.width := by
  subst same
  cases operation with
  | read address =>
      have ended := controller.read_ends address
      rw [step]
      generalize controller.read address = outcome at ended ⊢
      cases ended with
      | invalidAddress => rfl
      | @sampled read =>
          have held := controller.held_putStored read index (controller.length_sampled read)
          change ((controller.putStored read (controller.sampled read)).held _ index).drop _ = _
          rw [held]
          split
          · rename_i same
            subst same
            rw [sampled]
            simp only [behaviour]
            exact Element.Kind.drop_putBits _ _ _
          · rfl
  | write address payload =>
      have ended := controller.write_ends address payload
      rw [step]
      generalize controller.write address payload = outcome at ended ⊢
      cases ended with
      | invalidAddress | sizeMismatch | rejected => rfl
      | @taken written _ _ _ _ sized takes =>
          have other : written ≠ index := by
            intro same
            have writable := takes.acceptsWrites
            rw [same, behaviour] at writable
            cases writable
          have held := controller.held_putStored written index sized
          rw [if_neg other] at held
          exact congrArg (List.drop _) held
  | tick | takeEvents | signal | pins => rfl

theorem drop_held_run {layout : Layout} {controller : Controller β}
    (same : controller.layout = layout) {index : Fin layout.size} {inputs : List Pin}
    (behaviour : (layout.register index).behaviour = .pins inputs)
    (operations : List (Operation β)) :
    ((controller.run operations).held layout index).drop
        (layout.register index).descriptor.kind.width =
      (controller.held layout index).drop (layout.register index).descriptor.kind.width := by
  induction operations generalizing controller with
  | nil => rfl
  | cons operation rest induction =>
      have next := (controller.layout_step operation).trans same
      rw [run_cons, induction next, drop_held_step same behaviour]

theorem drop_held_reached {layout : Layout} {pins : β} {contents : List (UInt8 × Bytes)}
    {controller : Controller β} (started : Started layout pins contents controller)
    {index : Fin layout.size} {inputs : List Pin}
    (behaviour : (layout.register index).behaviour = .pins inputs)
    (operations : List (Operation β)) :
    ((controller.run operations).held layout index).drop
        (layout.register index).descriptor.kind.width =
      (remembered layout index contents).drop (layout.register index).descriptor.kind.width := by
  obtain ⟨same, initially⟩ := held_started started index
  rw [drop_held_run same behaviour, initially, remembered]

omit [PinDriver β] in
theorem length_remembered {layout : Layout} {pins : β} {contents : List (UInt8 × Bytes)}
    {controller : Controller β} (started : Started layout pins contents controller)
    (index : Fin layout.size) :
    (remembered layout index contents).length = (layout.register index).size := by
  obtain ⟨same, initially⟩ := held_started started index
  rw [remembered, ← initially]
  subst same
  exact controller.length_stored index

/-- Some bytes show the levels of pins in their first element, and after it the bytes that a
register started with. -/
structure ShowsPins (pins : β) (inputs : List Pin) (kind : Element.Kind) (initial shown : Bytes) :
    Prop where
  length_shown : shown.length = initial.length
  level : ∀ (position : Nat) (pin : Pin), inputs[position]? = some pin →
    (kind.bits shown).testBit position = PinDriver.read pins pin
  above : ∀ position, inputs.length ≤ position → (kind.bits shown).testBit position = false
  rest : shown.drop kind.width = initial.drop kind.width

/-- Some bytes are those of a whole range of the latch. -/
structure ShowsLatch (signals : Signals) (window : LatchWindow) (size : Nat) (shown : Bytes) :
    Prop where
  length_shown : shown.length = size
  length_window : window.length = size
  latched : signals.latched.slice? window.offset window.stop = some shown

theorem showsPins_sampled (controller : Controller β) {index : Fin controller.layout.size}
    {inputs : List Pin}
    (behaviour : (controller.layout.register index).behaviour = .pins inputs) :
    ShowsPins controller.pins inputs (controller.layout.register index).descriptor.kind
      (controller.stored index) (controller.sampled index) := by
  have room := Layout.pins_length_le behaviour
  have enough : (controller.layout.register index).descriptor.kind.width ≤
      (controller.stored index).length := by
    rw [controller.length_stored]
    exact controller.layout.width_le_size index
  have shown : controller.sampled index =
      (controller.layout.register index).descriptor.kind.putBits
        (pinBits controller.pins inputs) (controller.stored index) := by
    simp only [sampled, behaviour]
  have bit : ∀ position, ((controller.layout.register index).descriptor.kind.bits
      (controller.sampled index)).testBit position =
        inputs[position]?.any (PinDriver.read controller.pins) := by
    intro position
    rw [shown, Element.Kind.bits_putBits _ _ enough, Nat.one_shiftLeft,
      Nat.testBit_mod_two_pow, testBit_pinBits]
    by_cases inside : position < 8 * (controller.layout.register index).descriptor.kind.width
    · rw [decide_eq_true inside, Bool.true_and]
    · rw [List.getElem?_eq_none (by omega), Option.any_none, Bool.and_false]
  constructor
  · rw [controller.length_sampled, controller.length_stored]
  · intro position pin found
    rw [bit, found, Option.any_some]
  · intro position above
    rw [bit, List.getElem?_eq_none above, Option.any_none]
  · rw [shown, Element.Kind.drop_putBits]

theorem showsLatch_sampled (controller : Controller β) {index : Fin controller.layout.size}
    {window : LatchWindow}
    (behaviour : (controller.layout.register index).behaviour = .latch window) :
    ShowsLatch controller.signals window (controller.layout.register index).size
      (controller.sampled index) := by
  obtain ⟨sized, fits⟩ := Layout.latch_fits behaviour
  have read := controller.read_latch behaviour fits sized.symm
  rw [read_addressOf, Except.ok.injEq] at read
  refine ⟨controller.length_sampled index, sized, ?_⟩
  rw [read]
  exact controller.signals.latched.slice?_eq_view fits

/-- In every state that a controller reaches, reading samples whole. -/
theorem read_samples_whole {layout : Layout} {pins : β} {contents : List (UInt8 × Bytes)}
    {controller : Controller β} (started : Started layout pins contents controller)
    (operations : List (Operation β)) (index : Fin layout.size) :
    ∃ shown, ((controller.run operations).read (layout.addressOf index)).1 = .ok shown ∧
      (∀ inputs, (layout.register index).behaviour = .pins inputs →
        ShowsPins (controller.run operations).pins inputs
          (layout.register index).descriptor.kind (remembered layout index contents) shown) ∧
        ∀ window, (layout.register index).behaviour = .latch window →
          ShowsLatch (controller.run operations).signals window (layout.register index).size
            shown := by
  have same := (controller.layout_run operations).trans started.layout_eq
  have sized := length_remembered started index
  have kept : ∀ inputs, (layout.register index).behaviour = .pins inputs →
      ((controller.run operations).held layout index).drop
          (layout.register index).descriptor.kind.width =
        (remembered layout index contents).drop
          (layout.register index).descriptor.kind.width := by
    intro inputs behaviour
    exact drop_held_reached started behaviour operations
  generalize controller.run operations = reached at same kept ⊢
  subst same
  refine ⟨reached.sampled index, reached.read_addressOf index, ?_, ?_⟩
  · intro inputs behaviour
    have shows := reached.showsPins_sampled behaviour
    refine ⟨?_, shows.level, shows.above, shows.rest.trans (kept inputs behaviour)⟩
    rw [reached.length_sampled, sized]
  · intro window behaviour
    exact reached.showsLatch_sampled behaviour

/-- A signed byte for a whole port and a second byte after it, and the last bytes of the
latch. -/
def fullSamples : Layout := ⟨[
  ⟨{ address := 0, name := "levels", kind := .signed .one, count := 2, access := { read := true } },
    .pins ((List.range 8).map fun bit => ⟨.a, bit⟩)⟩,
  ⟨{ address := 1, name := "sampled", kind := .unsigned .one, count := 3,
     access := { read := true } },
    .latch ⟨61, 3⟩⟩], by decide⟩

/-- The highest pin of the port is in the sign bit, the byte after it stays as it was loaded,
and the last byte of the latch is shown. -/
theorem read_samples_whole_full :
    ∃ controller, Started fullSamples SimulatedPins.fresh [(0, [0, 7])] controller ∧
      let reached := controller.run [.read 0, .signal (.latch ⟨61, 3⟩ [1, 2, 3]),
        .pins fun pins => (PinDriver.configureInput pins ⟨.a, 7⟩ .up .bothEdges).2]
      (∃ shown, (reached.read 0).1 = .ok shown ∧ shown.drop 1 = [7] ∧
        (Element.Kind.bits (.signed .one) shown).testBit 7 = true ∧
          (Element.Kind.bits (.signed .one) shown).testBit 8 = false) ∧
        (reached.read 1).1 = .ok [1, 2, 3] := by
  let bound : Controller SimulatedPins :=
    { layout := fullSamples, store := .zeroed, pins := .fresh, signals := .clear, pulses := .none }
  let controller := bound.putStored ⟨0, by decide⟩ [0, 7]
  have started : Started fullSamples SimulatedPins.fresh [(0, [0, 7])] controller :=
    .start (show Controller.start fullSamples 5 SimulatedPins.fresh .clear [(0, [0, 7])] =
      .ok controller from rfl)
  refine ⟨controller, started, ?_⟩
  have samples := read_samples_whole started [.read 0, .signal (.latch ⟨61, 3⟩ [1, 2, 3]),
    .pins fun pins => (PinDriver.configureInput pins ⟨.a, 7⟩ .up .bothEdges).2]
  obtain ⟨levels, readLevels, showsLevels, _⟩ := samples ⟨0, by decide⟩
  obtain ⟨bytes, readBytes, _, showsBytes⟩ := samples ⟨1, by decide⟩
  have shows := showsLevels _ rfl
  have latched := (showsBytes _ rfl).latched
  have raised := shows.level 7 ⟨.a, 7⟩ rfl
  refine ⟨⟨levels, readLevels, shows.rest, raised.trans ?_, shows.above 8 (by decide)⟩, ?_⟩
  · decide +kernel
  · have sampled : some bytes = some [1, 2, 3] := by
      rw [← latched]
      decide +kernel
    cases sampled
    exact readBytes

end Controller

end Instrument

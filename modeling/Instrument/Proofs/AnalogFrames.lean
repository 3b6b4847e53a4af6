import Instrument.NosePoke.Boot
import Instrument.Proofs.Counters
import Instrument.Proofs.ElementWords
import Instrument.Proofs.ReportedEvents

/-!
# Frames in the latch

The routine for a converted frame puts the bytes of the frame into its window of the latch
and raises the event of the frame.  The register shows the window as it is, and of all other
steps only those that name the window, or clear everything, reach it.
-/

namespace Instrument

theorem Bytes.overwrite_whole {buffer data : Bytes} (sized : data.length = buffer.length) :
    overwrite buffer 0 data = data := by
  rw [overwrite_start (Nat.le_of_eq sized), sized, List.drop_length, List.append_nil]

namespace Signals

theorem latched_raise (signals : Signals) (index : Nat) :
    (signals.raise index).latched = signals.latched := by
  rw [raise]
  split <;> rfl

theorem flags_latch (signals : Signals) (window : LatchWindow) (data : Bytes) :
    (signals.latch window data).flags = signals.flags := by
  rw [latch]
  split <;> rfl

theorem view_latch (signals : Signals) {window : LatchWindow} {data : Bytes}
    (fits : window.stop ≤ latchSize) (sized : data.length = window.length) :
    (signals.latch window data).latched.view window.offset window.length = data := by
  have whole : data.take window.length = data := List.take_of_length_le (by omega)
  rw [latch, if_pos fits, whole, ← sized]
  apply Store.view_overwrite
  rw [sized]
  exact fits

theorem view_latch_apart (signals : Signals) (window : LatchWindow) (data : Bytes)
    {start length : Nat} (apart : start + length ≤ window.offset) :
    (signals.latch window data).latched.view start length = signals.latched.view start length := by
  rw [latch]
  split
  · exact Store.view_overwrite_apart _ (.inl apart)
  · rfl

end Signals

/-- A register over a range of the latch shows that range. -/
theorem Controller.read_latch {β : Type} [PinDriver β] (controller : Controller β)
    {index : Fin controller.layout.size} {window : LatchWindow}
    (behaviour : (controller.layout.register index).behaviour = .latch window)
    (fits : window.stop ≤ Signals.latchSize)
    (sized : (controller.layout.register index).size = window.length) :
    (controller.read (controller.layout.addressOf index)).1 =
      .ok (controller.signals.latched.view window.offset window.length) := by
  rw [read_addressOf]
  simp only [sampled, behaviour, Signals.readLatch, if_pos fits]
  rw [Bytes.overwrite_whole]
  rw [controller.length_stored, sized]
  exact controller.signals.latched.length_view _ _ fits

namespace NosePoke

/-- The bytes of a frame, one channel after the other, each with the lowest byte first. -/
def frameBytes (frame : Vector Binary32 6) : Bytes :=
  frame.toList.flatMap fun channel => Bytes.littleEndian 4 channel.pattern.toNat

theorem length_frameBytes (frame : Vector Binary32 6) : (frameBytes frame).length = 24 := by
  simp [frameBytes, List.length_flatMap, List.map_const']

theorem encode?_frame (frame : Vector Binary32 6) :
    Element.encode? frame.toList (Bytes.zeros 24) = some (24, frameBytes frame) := by
  have bytes : frame.toList.flatMap Element.toBytes = frameBytes frame := by
    rw [frameBytes]
    congr 1
    funext channel
    exact Element.splitWord_eq_littleEndian 4 channel.pattern.toBitVec
  have size : frame.toList.length * (Element.kind Binary32).width = 24 := by
    rw [Vector.length_toList]
    rfl
  have fits : 24 ≤ (Bytes.zeros 24).length := by decide
  rw [Element.encode?, size, bytes, if_pos fits, Bytes.overwrite_whole]
  rw [length_frameBytes, Bytes.length_zeros]

theorem onAnalogFrame_eq (signals : Signals) (frame : Vector Binary32 6) :
    onAnalogFrame signals frame =
      (signals.latch analogWindow (frameBytes frame)).raise analogIndex := by
  rw [onAnalogFrame, encode?_frame]

/-- The window of the latch that holds the latest frame. -/
def analogBytes (signals : Signals) : Bytes :=
  signals.latched.view analogWindow.offset analogWindow.length

theorem analogBytes_latch (signals : Signals) (frame : Vector Binary32 6) :
    analogBytes (signals.latch analogWindow (frameBytes frame)) = frameBytes frame :=
  signals.view_latch (by decide) (length_frameBytes frame)

variable {β : Type}

/-- Whether a step leaves the latest frame in the latch. -/
def sparesFrame : Operation β → Bool
  | .signal (.latch window _) => decide (analogWindow.stop ≤ window.offset)
  | .signal .clear => false
  | _ => true

variable [PinDriver β] {controller : Controller β}

theorem analogBytes_step {operation : Operation β} (spares : sparesFrame operation = true) :
    analogBytes (controller.step operation).signals = analogBytes controller.signals := by
  cases operation with
  | read address =>
      have ended := controller.read_ends address
      rw [Controller.step]
      generalize controller.read address = outcome at ended ⊢
      cases ended <;> rfl
  | write address payload =>
      have ended := controller.write_ends address payload
      rw [Controller.step]
      generalize controller.write address payload = outcome at ended ⊢
      cases ended with
      | invalidAddress | sizeMismatch | rejected => rfl
      | taken _ _ takes => exact congrArg (Store.view · _ _) takes.latched_eq
  | signal call =>
      cases call with
      | raise index => exact congrArg (Store.view · _ _) (controller.signals.latched_raise index)
      | latch window data =>
          exact controller.signals.view_latch_apart window data (of_decide_eq_true spares)
      | clear => cases spares
      | increment | count | reset | readLatch | takeFlags => rfl
  | tick | takeEvents | pins => rfl

theorem read_analog (same : controller.layout = layout) :
    (controller.read analogAddress).1 = .ok (analogBytes controller.signals) := by
  obtain ⟨_, store, pins, signals, pulses⟩ := controller
  change _ = layout at same
  subst same
  have behaviour : (layout.register ⟨1, by decide⟩).behaviour = .latch analogWindow := rfl
  exact Controller.read_latch ⟨layout, store, pins, signals, pulses⟩ behaviour (by decide) rfl

omit [PinDriver β] in
theorem mem_takeEvents_analog (same : controller.layout = layout) :
    analogAddress ∈ controller.takeEvents.1 ↔
      controller.signals.flags.getLsbD analogIndex = true := by
  obtain ⟨_, store, pins, signals, pulses⟩ := controller
  change _ = layout at same
  subst same
  have reported : (layout.register ⟨1, by decide⟩).descriptor.access.event = true := rfl
  exact Controller.addressOf_mem_takeEvents_iff ⟨layout, store, pins, signals, pulses⟩ reported

end NosePoke

end Instrument

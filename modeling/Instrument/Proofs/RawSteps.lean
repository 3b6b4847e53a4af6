import Instrument.Proofs.RawController
import Instrument.Proofs.RequestOutcomes
import Instrument.Proofs.Requirements

/-!
# Raw steps without faults

What the requirements on a layout say of its registers is what the machine relies on
when it looks up, copies, shifts and pushes.  Each operation of a raw controller is
compared here with that of the controller: it ends without a fault, in the same
answer and the same data.
-/

namespace Instrument

open Checked

theorem getElem?_offsetsFrom (base : Nat) (registers : List Register)
    (index : Fin registers.length) :
    (offsetsFrom base registers)[(index : Nat)]? =
      some (base + Register.totalSize (registers.take index)) := by
  induction registers generalizing base with
  | nil => exact index.elim0
  | cons register rest induction =>
      cases index using Fin.cases with
      | zero => rfl
      | succ index =>
          have later := induction (base + register.size) index
          simpa [offsetsFrom, Register.totalSize, Nat.add_assoc] using later

namespace Controller

variable {β : Type} (controller : Controller β) (index : Fin controller.layout.size)

theorem raw_locate (address : UInt8) :
    controller.raw.locate address = (controller.locate address).map Fin.val := by
  rw [RawController.locate, locate, Layout.indexOf?]
  by_cases inside : controller.layout.minAddress ≤ address ∧
      address.toNat - controller.layout.minAddress.toNat < controller.layout.size
  · rw [dif_pos inside]
    exact if_pos inside
  · rw [dif_neg inside]
    exact if_neg inside

theorem raw_register :
    item controller.raw.registers index = .ok (controller.layout.register index) :=
  item_eq index.isLt

theorem raw_span :
    controller.raw.span index =
      .ok (controller.layout.start index, controller.layout.stop index) := by
  have offset : item controller.raw.offsets index = .ok (controller.layout.start index) := by
    have found := getElem?_offsetsFrom 0 controller.layout.registers index
    rw [Nat.zero_add] at found
    rw [item, raw, found]
    rfl
  rw [RawController.span, offset, ok_bind, raw_register]
  rfl

theorem raw_stored : controller.raw.stored index = .ok (controller.stored index) := by
  have inside := controller.layout.stop_le_totalBytes index
  rw [RawController.stored, raw_span, ok_bind]
  dsimp only
  rw [slice_eq]
  · rw [Layout.stop, Nat.add_sub_cancel_left]
    rfl
  · exact Nat.le_add_right _ _
  · rw [raw, controller.store.length_bytes]
    exact inside

theorem raw_putStored {data : Bytes}
    (sized : data.length = (controller.layout.register index).size) :
    controller.raw.putStored index data = .ok (controller.putStored index data).raw := by
  have inside := controller.layout.stop_le_totalBytes index
  rw [RawController.putStored, raw_span, ok_bind]
  dsimp only
  rw [copy_eq]
  · rfl
  · exact Nat.le_add_right _ _
  · rw [raw, controller.store.length_bytes]
    exact inside
  · rw [sized, Layout.stop, Nat.add_sub_cancel_left]

theorem raw_load (address : UInt8) (contents : Bytes) :
    controller.raw.load address contents =
      .ok ((controller.load address contents).map raw) := by
  rw [RawController.load, load, locateSized, raw_locate]
  cases controller.locate address with
  | error => rfl
  | ok index =>
      simp only [Except.map, raw_register, ok_bind]
      by_cases sized : contents.length = (controller.layout.register index).size
      · rw [if_pos sized, if_pos sized, raw_putStored _ _ sized]
        rfl
      · rw [if_neg sized, if_neg sized]
        rfl

theorem raw_loadAll (contents : List (UInt8 × Bytes)) :
    controller.raw.loadAll contents = .ok ((controller.loadAll contents).map raw) := by
  induction contents generalizing controller with
  | nil => rfl
  | cons entry rest induction =>
      obtain ⟨address, data⟩ := entry
      rw [RawController.loadAll, loadAll, raw_load, ok_bind]
      cases controller.load address data with
      | error => rfl
      | ok loaded => exact induction loaded

theorem raw_bind (layout : Layout) (storeSize : Nat) (pins : β) (signals : Signals) :
    RawController.bind layout.registers storeSize pins signals =
      .ok ((bind layout storeSize pins signals).map raw) := by
  have positive := layout.size_pos
  have base : item layout.registers 0 = .ok (layout.register ⟨0, positive⟩) :=
    item_eq positive
  have first : (layout.register ⟨0, positive⟩).descriptor.address = layout.minAddress := by
    rw [layout.address_register]
    apply UInt8.toNat_inj.mp
    rw [layout.toNat_addressOf, Nat.add_zero]
  have fits := layout.minAddress_add_size_le
  rw [RawController.bind, bind]
  change (if Signals.flagCount < layout.size then _ else _) = _
  by_cases crowded : Signals.flagCount < layout.size
  · rw [if_pos crowded, if_pos crowded]
    rfl
  · rw [if_neg crowded, if_neg crowded]
    change (if layout.totalBytes ≠ storeSize then _ else _) = _
    by_cases unfit : layout.totalBytes ≠ storeSize
    · rw [if_pos unfit, if_pos unfit]
      rfl
    · have same : layout.totalBytes = storeSize := Decidable.of_not_not unfit
      subst same
      have last : subtract layout.registers.length 1 = .ok (layout.size - 1) := if_pos positive
      have highest : addByte layout.minAddress (layout.size - 1) = .ok layout.maxAddress :=
        if_pos (by omega)
      rw [if_neg unfit, if_neg unfit, base, ok_bind, last, ok_bind, first, highest, ok_bind]
      rfl

theorem raw_start (layout : Layout) (storeSize : Nat) (pins : β) (signals : Signals)
    (contents : List (UInt8 × Bytes)) :
    RawController.start layout.registers storeSize pins signals contents =
      .ok ((Controller.start layout storeSize pins signals contents).map raw) := by
  rw [RawController.start, Controller.start, raw_bind, ok_bind]
  cases bind layout storeSize pins signals with
  | error => rfl
  | ok bound =>
      simp only [Except.map, raw_loadAll, ok_bind]
      cases bound.loadAll contents <;> rfl

theorem raw_descriptor (address : UInt8) :
    controller.raw.descriptor address = .ok (controller.descriptor address) := by
  rw [RawController.descriptor, descriptor, raw_locate]
  cases controller.locate address with
  | error => rfl
  | ok index =>
      simp only [Except.map, raw_register, ok_bind]
      rfl

/-- Two flags are the same bit of a word only at the same place. -/
theorem and_one_shiftLeft_eq_zero_iff {width : Nat} (word : BitVec width) {position : Nat}
    (inside : position < width) :
    word &&& BitVec.ofNat width 1 <<< position = 0 ↔ word.getLsbD position = false := by
  have flag : BitVec.ofNat width 1 <<< position = BitVec.twoPow width position := rfl
  rw [flag, BitVec.and_twoPow]
  cases set : word.getLsbD position with
  | false => simp
  | true =>
      have up : (BitVec.twoPow width position).getLsbD position = true := by simp [inside]
      simp only [if_true, Bool.true_eq_false, iff_false]
      intro none
      rw [none] at up
      simp at up

theorem raw_collect (flags : BitVec 32) (indices : List (Fin controller.layout.size))
    {events : List UInt8} (room : events.length + indices.length ≤ Signals.flagCount) :
    controller.raw.collect flags events (indices.map Fin.val) =
      .ok (events ++ (indices.filter fun index : Fin controller.layout.size =>
        flags.getLsbD index &&
          (controller.layout.register index).descriptor.access.event).map
            controller.layout.addressOf) := by
  have small : controller.layout.size ≤ 32 := controller.layout.size_le
  have fits := controller.layout.minAddress_add_size_le
  -- Every index left may add one event, so the events so far and the indices left
  -- together stay within the capacity.
  induction indices generalizing events with
  | nil => simp [RawController.collect]
  | cons index rest induction =>
      have bound := index.isLt
      rw [List.length_cons] at room
      rw [List.map_cons, RawController.collect, shiftUp, if_pos (by omega), ok_bind]
      simp only [and_one_shiftLeft_eq_zero_iff flags (Nat.lt_of_lt_of_le bound small),
        raw_register, ok_bind]
      cases flagged : flags.getLsbD index with
      | false =>
          rw [if_pos rfl, induction (by omega), List.filter_cons_of_neg (by simp [flagged])]
      | true =>
          rw [if_neg (by simp)]
          cases reported : (controller.layout.register index).descriptor.access.event with
          | false =>
              rw [if_neg (by simp), induction (by omega),
                List.filter_cons_of_neg (by simp [reported])]
          | true =>
              have address : addByte controller.raw.base index =
                  .ok (controller.layout.addressOf index) :=
                if_pos (by change controller.layout.minAddress.toNat + index ≤ 255; omega)
              rw [if_pos rfl, address, ok_bind, push, if_pos (by omega), ok_bind,
                induction (by simp; omega), List.filter_cons_of_pos (by simp [flagged, reported]),
                List.map_cons, List.append_assoc, List.singleton_append]

theorem raw_takeEvents :
    controller.raw.takeEvents =
      .ok (controller.takeEvents.1, controller.takeEvents.2.raw) := by
  have small := controller.layout.size_le
  have range : List.range controller.raw.registers.length =
      (List.finRange controller.layout.size).map Fin.val := by
    apply List.ext_getElem
    · simp [raw, Layout.size]
    · intro position _ _
      simp
  rw [RawController.takeEvents, range]
  dsimp only
  rw [controller.raw_collect _ _ (by simpa using small)]
  rfl

theorem advance_eq (elapsed : Nat) {ended : List OutputLine} {running : List Pulse}
    (room : ended.length + running.length ≤ Pulses.capacity) :
    RawController.advance elapsed ended running =
      .ok (ended ++
          (running.filter fun pulse => decide (pulse.remaining ≤ elapsed)).map (·.line),
        (running.filter fun pulse => decide (elapsed < pulse.remaining)).map fun pulse =>
          { pulse with remaining := pulse.remaining - elapsed }) := by
  -- As for the events: what has ended and what is left to look at fit the list.
  induction running generalizing ended with
  | nil => simp [RawController.advance]
  | cons pulse rest induction =>
      rw [List.length_cons] at room
      rw [RawController.advance]
      by_cases spent : pulse.remaining ≤ elapsed
      · rw [if_pos spent, push, if_pos (by omega), ok_bind, induction (by simp; omega),
          List.filter_cons_of_pos (by simpa using spent),
          List.filter_cons_of_neg (by simpa using spent), List.map_cons, List.append_assoc,
          List.singleton_append]
      · rw [if_neg spent, subtract, if_pos (by omega), ok_bind, induction (by omega), ok_bind,
          List.filter_cons_of_neg (by simpa using spent),
          List.filter_cons_of_pos (by simpa using spent)]
        rfl

theorem arm_eq (pulses : Pulses) (line : OutputLine) (duration : Nat) :
    match pulses.arm? line duration with
    | none => RawController.canArm pulses.running line = false
    | some armed => RawController.canArm pulses.running line = true ∧
        RawController.arm pulses.running line duration = .ok armed.running := by
  by_cases running : pulses.running.any (·.isOn line.pin) = true
  · simp [Pulses.arm?, RawController.canArm, RawController.arm, running]
  · by_cases free : pulses.running.length < Pulses.capacity
    · simp [Pulses.arm?, RawController.canArm, RawController.arm, running, free, push]
    · simp [Pulses.arm?, RawController.canArm, running, free]

section

variable [PinDriver β]

/-- The levels of as many pins as a word has bits fit the word. -/
theorem pinBits_eq (pins : β) {word : BitVec 64} {position : Nat} {rest : List Pin}
    (small : word.toNat < 1 <<< position) (fits : position + rest.length ≤ 64) :
    ∃ levels, RawController.pinBits pins word position rest = .ok levels ∧
      levels.toNat = word.toNat + pinBits pins rest * (1 <<< position) := by
  induction rest generalizing word position with
  | nil => exact ⟨word, rfl, by simp [pinBits]⟩
  | cons pin rest induction =>
      rw [List.length_cons] at fits
      have double : 1 <<< (position + 1) = 2 * 1 <<< position := Nat.shiftLeft_succ 1 position
      have room : 1 <<< (position + 1) ≤ 1 <<< 64 := one_shiftLeft_le (by omega)
      have whole : (1 : Nat) <<< 64 = 18446744073709551616 := rfl
      rw [RawController.pinBits, pinBits]
      cases PinDriver.read pins pin with
      | false =>
          obtain ⟨levels, success, total⟩ := @induction word (position + 1)
            (by omega) (by omega)
          refine ⟨levels, success, ?_⟩
          rw [total, double, Bool.toNat_false, Nat.zero_add, Nat.mul_left_comm, Nat.mul_assoc]
      | true =>
          have one : (1#64).toNat = 1 := rfl
          have joined := @toNat_or_shiftLeft word 1#64 position small (by rw [one]; omega)
          rw [one, Nat.one_mul] at joined
          obtain ⟨levels, success, total⟩ := @induction (word ||| 1#64 <<< position)
            (position + 1) (by omega) (by omega)
          refine ⟨levels, ?_, ?_⟩
          · rw [if_pos rfl, shiftUp, if_pos (by omega), ok_bind, success]
          · rw [total, joined, double, Bool.toNat_true, Nat.add_mul, Nat.one_mul, Nat.add_assoc,
              Nat.mul_left_comm, Nat.mul_assoc]

theorem raw_sampled :
    controller.raw.sampled (controller.layout.register index) (controller.stored index) =
      .ok (controller.sampled index) := by
  rw [RawController.sampled, sampled]
  cases behaviour : (controller.layout.register index).behaviour with
  | pins inputs =>
      have width := (controller.layout.register index).descriptor.kind.width_le_eight
      have few := Layout.pins_length_le behaviour
      obtain ⟨levels, success, total⟩ := @pinBits_eq _ _ controller.raw.pins 0 0 inputs
        (by decide) (by omega)
      simp only [success, ok_bind, putBits_eq, total]
      simp [raw]
  | latch window => exact readLatch_eq _ _ _
  | counter counter =>
      simp only [putBits_eq]
      rw [BitVec.toNat_setWidth_of_le (by decide)]
      rfl
  | constant | setting | drive | pulse => rfl

theorem raw_read (address : UInt8) :
    controller.raw.read address =
      .ok ((controller.read address).1, (controller.read address).2.raw) := by
  rw [RawController.read, read, raw_locate]
  cases controller.locate address with
  | error => rfl
  | ok index =>
      have put := controller.raw_putStored index (controller.length_sampled index)
      have shown := (controller.refresh index).raw_stored index
      simp only [Except.map, raw_register, ok_bind, raw_stored, raw_sampled, put]
      change ((controller.refresh index).raw.stored index >>= _) = _
      rw [shown]
      rfl

/-- The bit that a line is driven by. -/
theorem decide_and_one_shiftLeft (word : BitVec 64) {position : Nat} (inside : position < 64) :
    decide (word &&& 1#64 <<< position ≠ 0) = (word.toNat >>> position % 2 == 1) := by
  have bit : word.getLsbD position = (word.toNat >>> position % 2 == 1) := by
    rw [BitVec.getLsbD, Nat.testBit_eq_decide_div_mod_eq, Nat.shiftRight_eq_div_pow]
    rfl
  rw [← bit, Bool.eq_iff_iff, decide_eq_true_eq, ne_eq,
    and_one_shiftLeft_eq_zero_iff word inside, Bool.not_eq_false]

theorem raw_driveLines (word : BitVec 64) {position : Nat} {lines : List OutputLine}
    (fits : position + lines.length ≤ 64) :
    controller.raw.driveLines word position lines =
      .ok (controller.driveLines (word.toNat >>> position) lines).raw := by
  induction lines generalizing controller position with
  | nil => rfl
  | cons line rest induction =>
      rw [List.length_cons] at fits
      have half : word.toNat >>> (position + 1) = word.toNat >>> position / 2 := by
        rw [Nat.shiftRight_succ]
      rw [RawController.driveLines, shiftUp, if_pos (by omega), ok_bind, driveLines, ← half,
        decide_and_one_shiftLeft word (by omega)]
      have later := @induction {
        controller with
        pulses := (controller.pulses.cancel line.pin).2
        pins := PinDriver.drive controller.pins line (word.toNat >>> position % 2 == 1) }
        (position + 1) (by omega)
      exact later

theorem raw_pulseDuration? (kind : Element.Kind) (payload : Bytes) :
    RawController.pulseDuration? kind payload = .ok (pulseDuration? kind payload) := by
  obtain ⟨integer, success, value⟩ := integer?_eq kind payload
  rw [RawController.pulseDuration?, success, ok_bind, pulseDuration?, ← value]
  cases integer <;> rfl

theorem raw_perform {payload : Bytes}
    (sized : payload.length = (controller.layout.register index).size) :
    controller.raw.perform index (controller.layout.register index) payload =
      .ok ((controller.perform index payload).map id raw) := by
  have put := controller.raw_putStored index sized
  rw [RawController.perform, perform]
  cases behaviour : (controller.layout.register index).behaviour with
  | pins | latch | constant => rfl
  | setting rule =>
      simp only [accepts_eq, ok_bind, put]
      split <;> rfl
  | drive rule lines =>
      have width := (controller.layout.register index).descriptor.kind.width_le_eight
      have few := Layout.lines_length_le behaviour
      obtain ⟨word, success, value⟩ := bits_eq
        (controller.layout.register index).descriptor.kind payload
      have driven := (controller.putStored index payload).raw_driveLines word
        (show 0 + lines.length ≤ 64 by omega)
      simp only [accepts_eq, ok_bind, put, success, driven, ← value]
      split <;> rfl
  | pulse rule line =>
      simp only [accepts_eq, ok_bind, put, raw_pulseDuration?]
      split
      · cases pulseDuration? (controller.layout.register index).descriptor.kind payload with
        | none => rfl
        | some duration =>
            have arms := arm_eq controller.pulses line duration
            have same : (controller.putStored index payload).raw.running =
              controller.pulses.running := rfl
            have start : controller.raw.running = controller.pulses.running := rfl
            simp only [start, same]
            cases armed : controller.pulses.arm? line duration with
            | none =>
                simp only [armed] at arms
                simp only [arms]
                rfl
            | some pulses =>
                simp only [armed] at arms
                simp only [arms.1, arms.2, if_true, ok_bind]
                rfl
      · rfl
  | counter counter resettable =>
      dsimp only
      split
      · let reset := { controller with signals := controller.signals.reset counter }
        have whole := reset.length_stored index
        have zeroed := reset.raw_putStored index
          (Bytes.length_zeros (reset.layout.register index).size)
        change (reset.raw.stored index >>= fun held =>
          reset.raw.putStored index (Bytes.zeros held.length) >>= _) = _
        rw [reset.raw_stored index, ok_bind, whole, zeroed]
        rfl
      · rfl

theorem raw_write (address : UInt8) (payload : Bytes) :
    controller.raw.write address payload =
      .ok ((controller.write address payload).map id raw) := by
  rw [RawController.write, write, locateSized, raw_locate]
  cases controller.locate address with
  | error => rfl
  | ok index =>
      simp only [Except.map, raw_register, ok_bind]
      by_cases sized : payload.length = (controller.layout.register index).size
      · rw [if_pos sized, if_pos sized, raw_perform _ _ sized]
      · rw [if_neg sized, if_neg sized]
        rfl

theorem raw_tick (elapsed : Nat) :
    controller.raw.tick elapsed = .ok (controller.tick elapsed).raw := by
  have advanced := @advance_eq elapsed [] controller.pulses.running
    (by simpa using controller.pulses.length_running)
  rw [RawController.tick, raw]
  dsimp only
  rw [advanced]
  rfl

end

end Controller

end Instrument

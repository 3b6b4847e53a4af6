import Instrument.Proofs.OrderedReplies

/-!
# Replies as whole answers

The reply to a write reads the register back and copies it into a message.  Neither can
fail: a register that takes a payload shows the same payload to the next read, and every
register fits a message.  So a reply is an error exactly if the device refuses the request,
with the reason of the device, and otherwise it carries all bytes.
-/

namespace Instrument

/-- A register shows an accepted write to the next read. -/
theorem Controller.read_of_accepted {β : Type} [PinDriver β] (controller : Controller β)
    {address : UInt8} {payload : Bytes}
    (accepted : (controller.write address payload).1 = .ok ()) :
    ((controller.write address payload).2.read address).1 = .ok payload := by
  have kept : (controller.write address payload).2.layout = controller.layout :=
    controller.layout_step (.write address payload)
  obtain ⟨index, rfl, sized, takes⟩ := controller.write_taken accepted
  have held : (controller.write (controller.layout.addressOf index) payload).2.held
      controller.layout index = payload := by
    rw [controller.write_acceptable index sized takes.acceptable]
    exact (controller.held_putStored index index sized).trans (if_pos rfl)
  have unsampled : (controller.layout.register index).behaviour.samples = false →
      ((controller.write (controller.layout.addressOf index) payload).2.read
        (controller.layout.addressOf index)).1 = .ok payload := by
    intro stored
    rw [(Controller.read_eq_held kept stored).1, held]
  cases behaviour : (controller.layout.register index).behaviour with
  | setting | drive | pulse =>
      apply unsampled
      rw [behaviour]
      rfl
  | counter counter resettable =>
      have zero := Controller.atZero_of_accepted behaviour accepted
      rw [Controller.read_of_atZero kept behaviour zero, (takes.of_counter behaviour sized).1]
  | pins | latch | constant =>
      have writable := takes.acceptsWrites
      rw [behaviour] at writable
      cases writable

namespace Firmware

open NosePoke

variable {β : Type} [PinDriver β]

section Answers

variable {device : Controller β} {address : UInt8} {payload : Payload} {reason : RequestError}

theorem fst_readPayload_of_read (read : (device.read address).1 = .ok payload.bytes) :
    (readPayload device address).1 = .ok payload := by
  rw [readPayload]
  generalize device.read address = outcome at read ⊢
  obtain ⟨result, after⟩ := outcome
  cases read
  simp only [Payload.ofBytes?, dif_pos payload.length_bytes]

theorem answer_read_refused (refused : (device.read address).1 = .error reason) :
    answer device (.read address) = (⟨address, .error reason⟩, device) := by
  have unchanged := (device.read_refused refused).2.2
  rw [answer, readPayload]
  generalize device.read address = outcome at refused unchanged ⊢
  obtain ⟨result, after⟩ := outcome
  cases refused
  cases unchanged
  rfl

theorem answer_write_refused (refused : (device.write address payload.bytes).1 = .error reason) :
    answer device (.write address payload) = (⟨address, .error reason⟩, device) := by
  have unchanged := device.write_refused refused
  rw [answer]
  generalize device.write address payload.bytes = outcome at refused unchanged ⊢
  obtain ⟨result, after⟩ := outcome
  cases refused
  cases unchanged
  rfl

theorem fst_answer_read_of_read (read : (device.read address).1 = .ok payload.bytes) :
    (answer device (.read address)).1 = ⟨address, .ok payload⟩ :=
  congrArg (Reply.mk address) (fst_readPayload_of_read read)

theorem fst_answer_write_of_accepted
    (accepted : (device.write address payload.bytes).1 = .ok ()) :
    (answer device (.write address payload)).1 = ⟨address, .ok payload⟩ := by
  have carried := fst_readPayload_of_read (device.read_of_accepted accepted)
  rw [answer]
  generalize device.write address payload.bytes = outcome at accepted carried ⊢
  obtain ⟨result, after⟩ := outcome
  cases accepted
  exact congrArg (Reply.mk address) carried

end Answers

/-- A reply is an error exactly if the outcome on the device is one, for the same reason, and
then the device has not changed. -/
structure Agrees {α : Type} (device : Controller β) (address : UInt8)
    (outcome : Except RequestError α) (reply : Reply) (after : Controller β) : Prop where
  sameAddress : reply.address = address
  error_iff : ∀ reason, reply.result = .error reason ↔ outcome = .error reason
  unchanged : ∀ reason, reply.result = .error reason → after = device

section Agreement

variable {α : Type} (device after : Controller β) (address : UInt8)

omit [PinDriver β] in
theorem Agrees.error (reason : RequestError) :
    Agrees device address (.error reason : Except RequestError α) ⟨address, .error reason⟩
      device := by
  constructor
  · rfl
  · intro other
    simp
  · intro _ _
    rfl

omit [PinDriver β] in
theorem Agrees.ok (value : α) (payload : Payload) :
    Agrees device address (.ok value) ⟨address, .ok payload⟩ after := by
  constructor
  · rfl
  · intro reason
    simp
  · intro reason failed
    cases failed

end Agreement

/-- The reply to a read is the answer of the device, with all bytes of the register. -/
structure ReadReply (device : Controller β) (address : UInt8) (reply : Reply)
    (after : Controller β) : Prop extends
    Agrees device address (device.read address).1 reply after where
  whole : ∀ bytes, (device.read address).1 = .ok bytes →
    ∃ shown, reply.result = .ok shown ∧ shown.bytes = bytes
  length_shown : ∀ index shown, device.layout.addressOf index = address →
    reply.result = .ok shown → shown.bytes.length = (device.layout.register index).size

/-- The reply to a write is the answer of the device, with the payload if it is accepted. -/
structure WriteReply (device : Controller β) (address : UInt8) (payload : Payload)
    (reply : Reply) (after : Controller β) : Prop extends
    Agrees device address (device.write address payload.bytes).1 reply after where
  echoed : (device.write address payload.bytes).1 = .ok () → reply.result = .ok payload
  zeroed : layout.showsAt beamCounter address = true → ∀ shown,
    reply.result = .ok shown → shown.bytes = [0, 0, 0, 0]

theorem read_reply {device : Controller β} (same : device.layout = layout) (address : UInt8) :
    ReadReply device address (answer device (.read address)).1
      (answer device (.read address)).2 := by
  cases given : (device.read address).1 with
  | error reason =>
      rw [answer_read_refused given]
      refine ⟨given ▸ .error device address reason, ?_, ?_⟩
      · intro bytes read
        rw [given] at read
        cases read
      · intro index shown _ carried
        cases carried
  | ok bytes =>
      have reply := @fst_answer_read_of_read β _ device address
        ⟨bytes, length_le_maxPayload same given⟩ given
      rw [reply]
      refine ⟨given ▸ .ok device _ address bytes _, ?_, ?_⟩
      · intro others read
        rw [given] at read
        cases read
        exact ⟨_, rfl, rfl⟩
      · intro index shown place carried
        cases carried
        rw [← place, device.read_served] at given
        cases given
        exact device.length_sampled index

/-- The beam counter is written with four zeros or not at all. -/
theorem bytes_of_counter_accepted {device : Controller β} (same : device.layout = layout)
    {address : UInt8} {payload : Bytes} (counts : layout.showsAt beamCounter address = true)
    (accepted : (device.write address payload).1 = .ok ()) : payload = [0, 0, 0, 0] := by
  obtain ⟨index, rfl, sized, takes⟩ := device.write_taken accepted
  have four : ∀ index, (device.layout.register index).behaviour.shows beamCounter = true →
      (device.layout.register index).size = 4 := by
    rw [same]
    decide
  rw [← same, Layout.showsAt_addressOf] at counts
  obtain ⟨resettable, behaviour⟩ := Behaviour.shows_iff.mp counts
  rw [(takes.of_counter behaviour sized).1, four index counts]
  rfl

theorem write_reply {device : Controller β} (same : device.layout = layout) (address : UInt8)
    (payload : Payload) :
    WriteReply device address payload (answer device (.write address payload)).1
      (answer device (.write address payload)).2 := by
  cases given : (device.write address payload.bytes).1 with
  | error reason =>
      rw [answer_write_refused given]
      refine ⟨given ▸ .error device address reason, ?_, ?_⟩
      · intro accepted
        rw [given] at accepted
        cases accepted
      · intro _ shown carried
        cases carried
  | ok =>
      rw [fst_answer_write_of_accepted given]
      refine ⟨given ▸ .ok device _ address () payload, ?_, ?_⟩
      · intro _
        rfl
      · intro counts shown carried
        cases carried
        exact bytes_of_counter_accepted same counts given

/-- Whatever the device went through since it booted, it answers every request whole. -/
theorem replies_whole {pins : β} {signals : Signals} {device : Controller β}
    (boots : (boot pins signals).1 = .ok device) (operations : List (Operation β)) :
    (∀ address, ReadReply (device.run operations) address
        (answer (device.run operations) (.read address)).1
        (answer (device.run operations) (.read address)).2) ∧
      ∀ address payload, WriteReply (device.run operations) address payload
        (answer (device.run operations) (.write address payload)).1
        (answer (device.run operations) (.write address payload)).2 := by
  obtain ⟨after, rfl⟩ := booted_of_boot boots
  have same : ((booted after).run operations).layout = layout :=
    (booted after).layout_run operations
  exact ⟨read_reply same, write_reply same⟩

/-- After an edge on the first beam the counter is reset by four zeros and answers with them,
and there is no register at the address 44. -/
theorem replies_whole_fresh :
    let zeros : Payload := ⟨[0, 0, 0, 0], by decide⟩
    ∃ device reached, (boot SimulatedPins.fresh .clear).1 = .ok device ∧
      reached = device.run [.signal (.increment beamCounter)] ∧
        (answer reached (.write 40 zeros)).1.result = .ok zeros ∧
          (answer reached (.read 44)).1.result = .error (.invalidAddress 44) ∧
            (answer reached (.read 44)).2 = reached := by
  intro zeros
  have boots : (boot SimulatedPins.fresh .clear).1 =
      .ok (booted (setUp SimulatedPins.fresh).2) := congrArg Prod.fst (boot_eq rfl .clear)
  have replies := replies_whole boots [.signal (.increment beamCounter)]
  generalize ended : (booted (setUp SimulatedPins.fresh).2).run
    [.signal (.increment beamCounter)] = reached at replies
  have same : reached.layout = layout := by
    rw [← ended]
    exact Controller.layout_run _ _
  have member : layout.register ⟨8, by decide⟩ ∈ reached.layout.registers := by
    rw [same]
    exact List.get_mem _ _
  have behaviour : (layout.register ⟨8, by decide⟩).behaviour = .counter beamCounter true := rfl
  have allZero : ∀ byte ∈ ([0, 0, 0, 0] : Bytes), byte = 0 := by simp
  have acceptable : Controller.Acceptable reached.pulses (layout.register ⟨8, by decide⟩)
      zeros.bytes := by
    rw [Controller.Acceptable, behaviour]
    exact ⟨rfl, allZero⟩
  have accepted : (reached.write 40 zeros.bytes).1 = .ok () :=
    ((reached.write_answered 40 zeros.bytes).ok _ member rfl rfl).mpr acceptable
  have outside : ¬ (reached.layout.minAddress ≤ 44 ∧ 44 ≤ reached.layout.maxAddress) := by
    rw [same]
    decide
  have refused := ((replies.1 44).error_iff _).mpr (reached.read_outside outside)
  exact ⟨_, reached, boots, ended.symm, (replies.2 40 zeros).echoed accepted, refused,
    (replies.1 44).unchanged _ refused⟩

end Firmware

end Instrument

import Instrument.NosePoke.Registers
import Instrument.Pin.Simulation
import Instrument.Proofs.RawSteps
import Instrument.Proofs.Runs

/-!
# Freedom from faults

Over registers that meet the requirements of a layout the machine never faults: not
when it starts, and not in any run of calls, whatever their arguments.  It gives the
answers of the controller and holds its data.
-/

namespace Instrument

open Checked

theorem Layout.registers_of_accepted {registers : List Register} {layout : Layout}
    (accepted : Layout.ofRegisters? registers = .ok layout) :
    layout.registers = registers := by
  rw [ofRegisters?] at accepted
  split at accepted
  · cases accepted
  · cases accepted
    rfl

/-- A call on a controller: an operation, or a look that changes nothing. -/
inductive ControllerCall (β : Type) where
  | operation (operation : Operation β)
  | readSpan (offset length : Nat)
  | descriptor (address : UInt8)

/-- What a call answers. -/
inductive Answer where
  | none
  | read (answer : Except RequestError Bytes)
  | written (answer : Except RequestError Unit)
  | events (addresses : List UInt8)
  | span (bytes : Option Bytes)
  | descriptor (answer : Except RequestError Descriptor)
  | count (value : UInt32)
  | latched (buffer : Bytes)
  | flags (flags : BitVec 32)

/-- What a call on the signals answers. -/
def SignalCall.answer (signals : Signals) : SignalCall → Answer
  | .count counter => .count (signals.count counter)
  | .readLatch window buffer => .latched (signals.readLatch window buffer)
  | .takeFlags => .flags signals.takeFlags.1
  | .increment _ | .raise _ | .latch _ _ | .reset _ | .clear => .none

/-- A call on the signals, on the machine. -/
def SignalCall.checked (signals : Signals) : SignalCall → Checked (Answer × Signals)
  | .increment counter => .ok (.none, signals.increment counter)
  | .raise index => do
    let signals ← Checked.raise signals index
    pure (.none, signals)
  | .latch window data => do
    let signals ← Checked.latch signals window data
    pure (.none, signals)
  | .count counter => .ok (.count (signals.count counter), signals)
  | .reset counter => .ok (.none, signals.reset counter)
  | .readLatch window buffer => do
    let filled ← Checked.readLatch signals window buffer
    pure (.latched filled, signals)
  | .takeFlags => .ok (.flags signals.takeFlags.1, signals.takeFlags.2)
  | .clear => .ok (.none, .clear)

theorem SignalCall.checked_eq (signals : Signals) (call : SignalCall) :
    call.checked signals = .ok (call.answer signals, call.apply signals) := by
  cases call with
  | raise =>
      rw [checked, raise_eq]
      rfl
  | latch =>
      rw [checked, latch_eq]
      rfl
  | readLatch =>
      rw [checked, readLatch_eq]
      rfl
  | increment | count | reset | takeFlags | clear => rfl

namespace Controller

variable {β : Type} [PinDriver β]

/-- What a controller answers. -/
def answer (controller : Controller β) : ControllerCall β → Answer
  | .operation (.read address) => .read (controller.read address).1
  | .operation (.write address payload) => .written (controller.write address payload).1
  | .operation (.tick _) | .operation (.pins _) => .none
  | .operation .takeEvents => .events controller.takeEvents.1
  | .operation (.signal call) => call.answer controller.signals
  | .readSpan offset length => .span (controller.readSpan offset length)
  | .descriptor address => .descriptor (controller.descriptor address)

/-- The controller after a call. -/
def after (controller : Controller β) : ControllerCall β → Controller β
  | .operation operation => controller.step operation
  | .readSpan _ _ | .descriptor _ => controller

/-- What a controller answers in a run, in order. -/
def answers (controller : Controller β) : List (ControllerCall β) → List Answer
  | [] => []
  | call :: rest => controller.answer call :: (controller.after call).answers rest

end Controller

namespace RawController

variable {β : Type} [PinDriver β]

/-- A call on the machine. -/
def call (raw : RawController β) : ControllerCall β → Checked (Answer × RawController β)
  | .operation (.read address) => do
    let (answer, after) ← raw.read address
    pure (.read answer, after)
  | .operation (.write address payload) => do
    let (answer, after) ← raw.write address payload
    pure (.written answer, after)
  | .operation (.tick elapsed) => do
    let after ← raw.tick elapsed
    pure (.none, after)
  | .operation .takeEvents => do
    let (addresses, after) ← raw.takeEvents
    pure (.events addresses, after)
  | .operation (.signal call) => do
    let (answer, signals) ← call.checked raw.signals
    pure (answer, { raw with signals })
  | .operation (.pins change) => .ok (.none, { raw with pins := change raw.pins })
  | .readSpan offset length => .ok (.span (raw.bytes.slice? offset (offset + length)), raw)
  | .descriptor address => do
    let answer ← raw.descriptor address
    pure (.descriptor answer, raw)

/-- A run of calls on the machine, up to the first fault. -/
def run (raw : RawController β) : List (ControllerCall β) → Checked (List Answer × RawController β)
  | [] => .ok ([], raw)
  | call :: rest => do
    let (answer, after) ← raw.call call
    let (answers, last) ← after.run rest
    pure (answer :: answers, last)

end RawController

namespace Controller

variable {β : Type} [PinDriver β]

theorem raw_call (controller : Controller β) (call : ControllerCall β) :
    controller.raw.call call =
      .ok (controller.answer call, (controller.after call).raw) := by
  cases call with
  | operation operation =>
      cases operation with
      | read address =>
          rw [RawController.call, raw_read]
          rfl
      | write address payload =>
          rw [RawController.call, raw_write]
          rfl
      | tick elapsed =>
          rw [RawController.call, raw_tick]
          rfl
      | takeEvents =>
          rw [RawController.call, raw_takeEvents]
          rfl
      | signal call =>
          rw [RawController.call, SignalCall.checked_eq]
          rfl
      | pins change => rfl
  | readSpan offset length => rfl
  | descriptor address =>
      rw [RawController.call, raw_descriptor]
      rfl

theorem raw_run (controller : Controller β) (calls : List (ControllerCall β)) :
    controller.raw.run calls =
      .ok (controller.answers calls, (calls.foldl after controller).raw) := by
  induction calls generalizing controller with
  | nil => rfl
  | cons call rest induction =>
      rw [RawController.run, raw_call, ok_bind]
      dsimp only
      rw [induction]
      rfl

/-- Registers that are accepted as a layout never make the machine fault.  Starting over a
store of any size and with any contents ends, and ends as the controller starts; and from
every start any run of calls ends, with the answers of the controller and in its data. -/
theorem run_faultless {registers : List Register} {layout : Layout}
    (accepted : Layout.ofRegisters? registers = .ok layout) (pins : β)
    (contents : List (UInt8 × Bytes)) :
    (∀ storeSize signals,
      RawController.bind registers storeSize pins signals =
          .ok ((bind layout storeSize pins signals).map raw) ∧
        RawController.start registers storeSize pins signals contents =
          .ok ((start layout storeSize pins signals contents).map raw)) ∧
      ∀ controller, Started layout pins contents controller →
        controller.raw.registers = registers ∧
        ∀ calls : List (ControllerCall β), controller.raw.run calls =
          .ok (controller.answers calls, (calls.foldl after controller).raw) := by
  have same := Layout.registers_of_accepted accepted
  subst same
  constructor
  · intro storeSize signals
    exact ⟨raw_bind layout storeSize pins signals,
      raw_start layout storeSize pins signals contents⟩
  · intro controller started
    exact ⟨congrArg Layout.registers started.layout_eq, controller.raw_run⟩

/-- A few calls on the nose-poke controller: looks past its end, a driven port, a pulse
that ends, and a flag without a register. -/
def shortRun : List (ControllerCall SimulatedPins) :=
  [.readSpan 110 2, .operation (.read 44), .operation (.write 41 [15]),
    .operation (.write 42 [5, 0]), .operation (.tick 5), .operation (.signal (.raise 40)),
    .operation .takeEvents]

theorem run_faultless_nosePoke :
    ∃ controller, Started NosePoke.layout SimulatedPins.fresh [] controller ∧
      ∃ last, controller.raw.run shortRun =
        .ok ([.span none, .read (.error (.invalidAddress 44)), .written (.ok ()),
          .written (.ok ()), .none, .none, .events []], last) := by
  have accepted : Layout.ofRegisters? NosePoke.registers = .ok NosePoke.layout := rfl
  have started : Started NosePoke.layout SimulatedPins.fresh [] _ :=
    .bind (show Controller.bind NosePoke.layout 111 SimulatedPins.fresh .clear = .ok _ from rfl)
  have faultless := (run_faultless accepted SimulatedPins.fresh []).2 _ started
  exact ⟨_, started, _, faultless.2 shortRun⟩

end Controller

end Instrument

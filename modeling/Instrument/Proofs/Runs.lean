import Instrument.Proofs.RequestOutcomes

/-!
# Runs of a controller

A run is any finite sequence of requests, ticks, drained events, calls on the
signals and changes of the pins from outside.  `acceptedWrites` is the history of
a run that later theorems refer to; what every step keeps, a run keeps.
-/

namespace Instrument

/-- A call on the signals, from an interrupt routine or from the program. -/
inductive SignalCall where
  | increment (counter : Nat)
  | raise (index : Nat)
  | latch (window : LatchWindow) (data : Bytes)
  | count (counter : Nat)
  | reset (counter : Nat)
  | readLatch (window : LatchWindow) (buffer : Bytes)
  | takeFlags
  | clear

/-- The signals after a call. -/
def SignalCall.apply (signals : Signals) : SignalCall → Signals
  | .increment counter => signals.increment counter
  | .raise index => signals.raise index
  | .latch window data => signals.latch window data
  | .count _ | .readLatch _ _ => signals
  | .reset counter => signals.reset counter
  | .takeFlags => signals.takeFlags.2
  | .clear => .clear

/-- One step of a run. -/
inductive Operation (β : Type) where
  | read (address : UInt8)
  | write (address : UInt8) (payload : Bytes)
  | tick (elapsed : Nat)
  | takeEvents
  | signal (call : SignalCall)
  | pins (change : β → β)

namespace Operation

variable {β : Type}

/-- Whether the pins are left to the controller. -/
def leavesPins : Operation β → Bool
  | .pins _ => false
  | _ => true

/-- The milliseconds that pass in a step. -/
def elapsed : Operation β → Nat
  | .tick elapsed => elapsed
  | _ => 0

/-- The milliseconds that pass in a run. -/
def totalElapsed : List (Operation β) → Nat
  | [] => 0
  | operation :: rest => operation.elapsed + totalElapsed rest

end Operation

namespace Controller

variable {β : Type}

/-- The controllers that a layout and initial contents start. -/
inductive Started (layout : Layout) (pins : β) :
    List (UInt8 × Bytes) → Controller β → Prop where
  | bind {storeSize : Nat} {signals : Signals} {controller : Controller β} :
      bind layout storeSize pins signals = .ok controller →
      Started layout pins [] controller
  | start {storeSize : Nat} {signals : Signals} {contents : List (UInt8 × Bytes)}
      {controller : Controller β} :
      start layout storeSize pins signals contents = .ok controller →
      Started layout pins contents controller

theorem load_cases {controller loaded : Controller β} {address : UInt8}
    {contents : Bytes} (success : controller.load address contents = .ok loaded) :
    ∃ index, controller.layout.addressOf index = address ∧
      contents.length = (controller.layout.register index).size ∧
      loaded = controller.putStored index contents := by
  rw [load, locateSized] at success
  rcases controller.locate_eq address with ⟨index, place, found⟩ | ⟨_, missing⟩
  · rw [found] at success
    by_cases sized : contents.length = (controller.layout.register index).size
    · simp only [if_pos sized, Except.ok.injEq] at success
      exact ⟨index, place, sized, success.symm⟩
    · simp only [if_neg sized] at success
      cases success
  · rw [missing] at success
    cases success

theorem loadAll_cons_cases {controller loaded : Controller β} {address : UInt8}
    {data : Bytes} {rest : List (UInt8 × Bytes)}
    (success : controller.loadAll ((address, data) :: rest) = .ok loaded) :
    ∃ index, controller.layout.addressOf index = address ∧
      data.length = (controller.layout.register index).size ∧
      (controller.putStored index data).loadAll rest = .ok loaded := by
  rw [loadAll] at success
  cases first : controller.load address data with
  | error reason =>
      rw [first] at success
      cases success
  | ok next =>
      simp only [first] at success
      obtain ⟨index, place, sized, same⟩ := load_cases first
      rw [same] at success
      exact ⟨index, place, sized, success⟩

theorem loadAll_keeps {controller loaded : Controller β}
    {contents : List (UInt8 × Bytes)}
    (success : controller.loadAll contents = .ok loaded) :
    loaded.pins = controller.pins ∧ loaded.pulses = controller.pulses := by
  induction contents generalizing controller with
  | nil =>
      cases success
      exact ⟨rfl, rfl⟩
  | cons entry rest induction =>
      obtain ⟨index, _, _, later⟩ := loadAll_cons_cases success
      have kept := induction later
      exact kept

theorem layout_loadAll {controller loaded : Controller β}
    {contents : List (UInt8 × Bytes)}
    (success : controller.loadAll contents = .ok loaded) :
    loaded.layout = controller.layout := by
  induction contents generalizing controller with
  | nil =>
      cases success
      rfl
  | cons entry rest induction =>
      obtain ⟨index, _, _, later⟩ := loadAll_cons_cases success
      have kept := induction later
      exact kept

/-- No layout has more registers than there are event flags, so only the size of the store is
in question. -/
theorem bind_eq (layout : Layout) (storeSize : Nat) (pins : β) (signals : Signals) :
    bind layout storeSize pins signals =
      if layout.totalBytes = storeSize then
        .ok { layout, store := .zeroed, pins, signals, pulses := .none }
      else .error (.sizeMismatch layout.totalBytes storeSize) := by
  rw [bind, if_neg (Nat.not_lt.mpr layout.size_le), ite_not]

theorem bind_cases {layout : Layout} {storeSize : Nat} {pins : β}
    {signals : Signals} {controller : Controller β}
    (success : bind layout storeSize pins signals = .ok controller) :
    controller = { layout, store := .zeroed, pins, signals, pulses := .none } := by
  rw [bind_eq] at success
  split at success
  · cases success
    rfl
  · cases success

/-- Every controller starts by loading its contents over a zeroed store, with no
pulse running. -/
theorem Started.loads {layout : Layout} {pins : β} {contents : List (UInt8 × Bytes)}
    {controller : Controller β} (started : Started layout pins contents controller) :
    ∃ signals, loadAll { layout, store := .zeroed, pins, signals, pulses := .none }
      contents = .ok controller := by
  cases started with
  | @bind storeSize signals _ success =>
      rw [bind_cases success]
      exact ⟨signals, rfl⟩
  | @start storeSize signals _ _ success =>
      rw [Controller.start] at success
      cases empty : Controller.bind layout storeSize pins signals with
      | error cause =>
          rw [empty] at success
          cases success
      | ok bound =>
          simp only [empty] at success
          rw [bind_cases empty] at success
          refine ⟨signals, ?_⟩
          split at success
          · cases success
          · rename_i loads
            cases success
            exact loads

theorem Started.layout_eq {layout : Layout} {pins : β} {contents : List (UInt8 × Bytes)}
    {controller : Controller β} (started : Started layout pins contents controller) :
    controller.layout = layout := by
  obtain ⟨_, loads⟩ := started.loads
  exact layout_loadAll loads

variable [PinDriver β]

/-- The controller after a step. -/
def step (controller : Controller β) : Operation β → Controller β
  | .read address => (controller.read address).2
  | .write address payload => (controller.write address payload).2
  | .tick elapsed => controller.tick elapsed
  | .takeEvents => controller.takeEvents.2
  | .signal call => { controller with signals := call.apply controller.signals }
  | .pins change => { controller with pins := change controller.pins }

/-- The controller after a run. -/
def run (controller : Controller β) (operations : List (Operation β)) :
    Controller β :=
  operations.foldl step controller

@[simp] theorem run_nil (controller : Controller β) : controller.run [] = controller :=
  rfl

@[simp] theorem run_cons (controller : Controller β) (operation : Operation β)
    (rest : List (Operation β)) :
    controller.run (operation :: rest) = (controller.step operation).run rest :=
  rfl

/-- What a permitted step keeps, a run of permitted steps keeps. -/
theorem run_invariant (holds : Controller β → Prop)
    (permitted : Operation β → Prop)
    (preserves : ∀ controller operation, permitted operation →
      holds controller → holds (controller.step operation))
    {controller : Controller β} {operations : List (Operation β)}
    (allPermitted : ∀ operation ∈ operations, permitted operation)
    (initially : holds controller) : holds (controller.run operations) := by
  induction operations generalizing controller with
  | nil => exact initially
  | cons operation rest induction =>
      rw [List.forall_mem_cons] at allPermitted
      exact induction allPermitted.2
        (preserves controller operation allPermitted.1 initially)

theorem layout_step (controller : Controller β) (operation : Operation β) :
    (controller.step operation).layout = controller.layout := by
  cases operation with
  | read address =>
      have ended := controller.read_ends address
      rw [step]
      generalize controller.read address = outcome at ended ⊢
      cases ended <;> rfl
  | write address payload =>
      have ended := controller.write_ends address payload
      rw [step]
      generalize controller.write address payload = outcome at ended ⊢
      cases ended <;> rfl
  | tick | takeEvents | signal | pins => rfl

theorem layout_run (controller : Controller β) (operations : List (Operation β)) :
    (controller.run operations).layout = controller.layout := by
  refine run_invariant (fun reached => reached.layout = controller.layout)
    (fun _ => True) ?_ ?_ rfl
  · intro reached operation _ same
    rw [layout_step, same]
  · intro operation _
    trivial

/-- The write that a step carries out, if it is one that is accepted. -/
def acceptedWrite? (controller : Controller β) : Operation β → Option (UInt8 × Bytes)
  | .write address payload =>
    match (controller.write address payload).1 with
    | .ok () => some (address, payload)
    | .error _ => none
  | _ => none

theorem acceptedWrite?_eq_some_iff {controller : Controller β}
    {operation : Operation β} {entry : UInt8 × Bytes} :
    controller.acceptedWrite? operation = some entry ↔
      operation = .write entry.1 entry.2 ∧
        (controller.write entry.1 entry.2).1 = .ok () := by
  cases operation with
  | write address payload =>
      rw [acceptedWrite?]
      constructor
      · intro accepted
        split at accepted
        · rename_i success
          cases accepted
          exact ⟨rfl, success⟩
        · cases accepted
      · intro written
        cases written.1
        simp only [written.2]
  | read | tick | takeEvents | signal | pins => simp [acceptedWrite?]

/-- The accepted writes of a run, in order. -/
def acceptedWrites (controller : Controller β) :
    List (Operation β) → List (UInt8 × Bytes)
  | [] => []
  | operation :: rest =>
    (controller.acceptedWrite? operation).toList ++
      (controller.step operation).acceptedWrites rest

end Controller

end Instrument

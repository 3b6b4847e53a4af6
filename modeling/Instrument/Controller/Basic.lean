import Instrument.Controller.Error
import Instrument.Pulses
import Instrument.Register.Layout

/-!
# The register controller

The controller owns the store, the pins and the pulse timers and holds the signals
of the interrupt routines.  `bind` starts one over a zeroed store; `load` puts
initial contents into it without any of the effects of a write.
-/

namespace Instrument

/-- The state of a register controller over pins with state `β`. -/
structure Controller (β : Type) where
  layout : Layout
  store : Store layout.totalBytes
  pins : β
  /-- What the interrupt routines have left. -/
  signals : Signals
  pulses : Pulses

namespace Controller

variable {β : Type}

/-- Start a controller over a store of the given size, all zero. -/
def bind (layout : Layout) (storeSize : Nat) (pins : β) (signals : Signals) :
    Except BindError (Controller β) :=
  if Signals.flagCount < layout.size then
    .error (.tooManyRegisters layout.size)
  else if layout.totalBytes ≠ storeSize then
    .error (.sizeMismatch layout.totalBytes storeSize)
  else
    .ok { layout, store := .zeroed, pins, signals, pulses := .none }

/-- The index of the register at an address. -/
def locate (controller : Controller β) (address : UInt8) :
    Except RequestError (Fin controller.layout.size) :=
  match controller.layout.indexOf? address with
  | some index => .ok index
  | none => .error (.invalidAddress address)

/-- The bytes of a register, as the store holds them. -/
def stored (controller : Controller β) (index : Fin controller.layout.size) : Bytes :=
  controller.store.view (controller.layout.start index) (controller.layout.register index).size

/-- Put bytes into the store in the place of a register. -/
def putStored (controller : Controller β) (index : Fin controller.layout.size) (data : Bytes) :
    Controller β :=
  { controller with store := controller.store.overwrite (controller.layout.start index) data }

/-- Find the register at an address and check a payload against its size. -/
def locateSized (controller : Controller β) (address : UInt8) (payload : Bytes) :
    Except RequestError (Fin controller.layout.size) :=
  match controller.locate address with
  | .error reason => .error reason
  | .ok index =>
    let size := (controller.layout.register index).size
    if payload.length = size then .ok index
    else .error (.sizeMismatch size payload.length)

/-- Put initial contents into a register, whatever its behaviour. -/
def load (controller : Controller β) (address : UInt8) (contents : Bytes) :
    Except RequestError (Controller β) :=
  match controller.locateSized address contents with
  | .error reason => .error reason
  | .ok index => .ok (controller.putStored index contents)

/-- Put initial contents into several registers, in order. -/
def loadAll (controller : Controller β) :
    List (UInt8 × Bytes) → Except RequestError (Controller β)
  | [] => .ok controller
  | (address, contents) :: rest =>
    match controller.load address contents with
    | .error reason => .error reason
    | .ok loaded => loaded.loadAll rest

/-- Start a controller and load initial contents. -/
def start (layout : Layout) (storeSize : Nat) (pins : β) (signals : Signals)
    (contents : List (UInt8 × Bytes)) : Except BootError (Controller β) :=
  match bind layout storeSize pins signals with
  | .error cause => .error (.layout cause)
  | .ok controller =>
    match controller.loadAll contents with
    | .error cause => .error (.contents cause)
    | .ok loaded => .ok loaded

/-- The description of the register at an address. -/
def descriptor (controller : Controller β) (address : UInt8) : Except RequestError Descriptor :=
  match controller.locate address with
  | .error reason => .error reason
  | .ok index => .ok (controller.layout.register index).descriptor

/-- A range of the store, without sampling anything. -/
def readSpan (controller : Controller β) (offset length : Nat) : Option Bytes :=
  controller.store.slice? offset (offset + length)

end Controller

end Instrument

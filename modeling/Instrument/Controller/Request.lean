import Instrument.Controller.Basic

/-!
# Reads and writes

A read first samples the register: pins, a range of the latch or a counter are
copied into the store, and the answer is what the store then holds.  A write
checks the address, then the size of the payload, then what the behaviour asks;
only then does it store, start or cancel pulses, and drive pins.  A refused request
leaves the controller as it was.
-/

namespace Instrument.Controller

variable {β : Type} [PinDriver β]

/-- The levels of pins as the bits of a number, the first pin in the lowest bit. -/
def pinBits (pins : β) : List Pin → Nat
  | [] => 0
  | pin :: rest => (PinDriver.read pins pin).toNat + 2 * pinBits pins rest

/-- The bytes of a register after sampling it. -/
def sampled (controller : Controller β) (index : Fin controller.layout.size) : Bytes :=
  let register := controller.layout.register index
  let kind := register.descriptor.kind
  let held := controller.stored index
  match register.behaviour with
  | .pins inputs => kind.putBits (pinBits controller.pins inputs) held
  | .latch window => controller.signals.readLatch window held
  | .counter counter _ => kind.putBits (controller.signals.count counter).toNat held
  | .constant | .setting _ | .drive _ _ | .pulse _ _ => held

/-- Copy what a register samples into the store. -/
def refresh (controller : Controller β) (index : Fin controller.layout.size) : Controller β :=
  controller.putStored index (controller.sampled index)

/-- Read the register at an address. -/
def read (controller : Controller β) (address : UInt8) :
    Except RequestError Bytes × Controller β :=
  match controller.locate address with
  | .error reason => (.error reason, controller)
  | .ok index =>
    let refreshed := controller.refresh index
    (.ok (refreshed.stored index), refreshed)

/-- Drive lines by the bits of a number, the first line by the lowest bit.  A pulse
on a driven pin is given up. -/
def driveLines (controller : Controller β) (value : Nat) : List OutputLine → Controller β
  | [] => controller
  | line :: rest =>
    let driven := {
      controller with
      pulses := (controller.pulses.cancel line.pin).2
      pins := PinDriver.drive controller.pins line (value % 2 == 1) }
    driven.driveLines (value / 2) rest

/-- The length of the pulse that a payload asks for: a positive number of
milliseconds that fits 32 bits. -/
def pulseDuration? (kind : Element.Kind) (payload : Bytes) : Option Nat :=
  match kind.integer? payload with
  | some value => if 0 < value ∧ value < 0x100000000 then some value.toNat else none
  | none => none

/-- Carry out a write whose address and size are right. -/
def perform (controller : Controller β) (index : Fin controller.layout.size) (payload : Bytes) :
    Attempt RequestError (Controller β) :=
  let register := controller.layout.register index
  let kind := register.descriptor.kind
  match register.behaviour with
  | .pins _ | .latch _ | .constant => .refused .rejected controller
  | .setting rule =>
    if rule.accepts kind payload then .accepted (controller.putStored index payload)
    else .refused .rejected controller
  | .drive rule lines =>
    if rule.accepts kind payload then
      .accepted ((controller.putStored index payload).driveLines (kind.bits payload) lines)
    else
      .refused .rejected controller
  | .pulse rule line =>
    if rule.accepts kind payload then
      match pulseDuration? kind payload with
      | none => .refused .rejected controller
      | some duration =>
        match controller.pulses.arm? line duration with
        | none => .refused .rejected controller
        | some pulses =>
          let stored := controller.putStored index payload
          .accepted { stored with pulses, pins := PinDriver.drive stored.pins line true }
    else
      .refused .rejected controller
  | .counter counter resettable =>
    if resettable && payload.all (· == 0) then
      let reset := { controller with signals := controller.signals.reset counter }
      .accepted (reset.putStored index (Bytes.zeros register.size))
    else
      .refused .rejected controller

/-- Write the register at an address. -/
def write (controller : Controller β) (address : UInt8) (payload : Bytes) :
    Attempt RequestError (Controller β) :=
  match controller.locateSized address payload with
  | .error reason => .refused reason controller
  | .ok index => controller.perform index payload

end Instrument.Controller

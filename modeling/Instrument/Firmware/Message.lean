import Instrument.Controller.Request
import Instrument.Controller.Tick

/-!
# Requests, replies and reports

A request reads or writes one register.  Its reply carries the register's bytes, or
the reason why it was refused; a write that succeeds is answered with what a read
gives right after.  A report carries a register that an interrupt routine flagged.
-/

namespace Instrument.Firmware

/-- The most bytes a message carries: those of the version register. -/
abbrev maxPayload : Nat := 32

/-- The bytes that a message carries. -/
structure Payload where
  bytes : Bytes
  length_bytes : bytes.length ≤ maxPayload

/-- A payload of some bytes, if they are not too many. -/
def Payload.ofBytes? (bytes : Bytes) : Option Payload :=
  if fits : bytes.length ≤ maxPayload then some ⟨bytes, fits⟩ else none

/-- A request for one register. -/
inductive Request where
  | read (address : UInt8)
  | write (address : UInt8) (payload : Payload)

def Request.address : Request → UInt8
  | .read address | .write address _ => address

/-- The answer to one request. -/
structure Reply where
  address : UInt8
  /-- The bytes of the register, or why the request was refused. -/
  result : Except RequestError Payload

/-- A register reported unasked. -/
structure Report where
  address : UInt8
  payload : Payload

variable {β : Type} [PinDriver β]

/-- Read a register as a payload; a register too large for one is refused. -/
def readPayload (controller : Controller β) (address : UInt8) :
    Except RequestError Payload × Controller β :=
  match controller.read address with
  | (.error reason, controller) => (.error reason, controller)
  | (.ok bytes, controller) =>
    match Payload.ofBytes? bytes with
    | some payload => (.ok payload, controller)
    | none => (.error .rejected, controller)

/-- Carry out a request and make up its reply. -/
def answer (controller : Controller β) (request : Request) : Reply × Controller β :=
  match request with
  | .read address =>
    let (result, controller) := readPayload controller address
    (⟨address, result⟩, controller)
  | .write address payload =>
    match controller.write address payload.bytes with
    | (.error reason, controller) => (⟨address, .error reason⟩, controller)
    | (.ok (), controller) =>
      let (result, controller) := readPayload controller address
      (⟨address, result⟩, controller)

/-- Read one flagged register for a report. -/
def report? (controller : Controller β) (address : UInt8) : Option Report × Controller β :=
  match readPayload controller address with
  | (.ok payload, controller) => (some ⟨address, payload⟩, controller)
  | (.error _, controller) => (none, controller)

/-- Read flagged registers for reports, in order. -/
def reportAll (controller : Controller β) : List UInt8 → List Report × Controller β
  | [] => ([], controller)
  | address :: rest =>
    let (report, controller) := report? controller address
    let (reports, controller) := reportAll controller rest
    (report.toList ++ reports, controller)

/-- The work of one tick: a millisecond passes, and the registers flagged since the
last tick are read for reports. -/
def onTick (controller : Controller β) : List Report × Controller β :=
  let (addresses, controller) := (controller.tick 1).takeEvents
  reportAll controller addresses

end Instrument.Firmware

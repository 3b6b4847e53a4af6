import Instrument.Controller.Request
import Instrument.Controller.Tick
import Instrument.Proofs.CheckedElements
import Instrument.Proofs.CheckedSignals

/-!
# Controllers on the machine

A raw controller is what the machine holds: words and lists, with nothing to say that
they fit together.  Its operations are those of the controller by the same names, but
they look up, copy, shift and push wherever the machine does, so each of them may end
in a fault.
-/

namespace Instrument

open Checked

/-- A controller as plain data. -/
structure RawController (β : Type) where
  base : UInt8
  registers : List Register
  /-- The first byte of each register. -/
  offsets : List Nat
  bytes : Bytes
  pins : β
  signals : Signals
  running : List Pulse

/-- The first bytes of registers that lie back to back. -/
def offsetsFrom (start : Nat) : List Register → List Nat
  | [] => []
  | register :: rest => start :: offsetsFrom (start + register.size) rest

/-- A controller without the proofs that its parts fit together. -/
def Controller.raw {β : Type} (controller : Controller β) : RawController β where
  base := controller.layout.minAddress
  registers := controller.layout.registers
  offsets := offsetsFrom 0 controller.layout.registers
  bytes := controller.store.bytes
  pins := controller.pins
  signals := controller.signals
  running := controller.pulses.running

namespace RawController

variable {β : Type}

/-- Start over a store of zeros; the highest address is computed to be shown. -/
def bind (registers : List Register) (storeSize : Nat) (pins : β) (signals : Signals) :
    Checked (Except BindError (RawController β)) :=
  if Signals.flagCount < registers.length then
    .ok (.error (.tooManyRegisters registers.length))
  else if Register.totalSize registers ≠ storeSize then
    .ok (.error (.sizeMismatch (Register.totalSize registers) storeSize))
  else do
    let first ← item registers 0
    let base := first.descriptor.address
    let last ← subtract registers.length 1
    let _ ← addByte base last
    pure (.ok {
      base, registers, offsets := offsetsFrom 0 registers, bytes := Bytes.zeros storeSize,
      pins, signals, running := [] })

def locate (raw : RawController β) (address : UInt8) : Except RequestError Nat :=
  if raw.base ≤ address ∧ address.toNat - raw.base.toNat < raw.registers.length then
    .ok (address.toNat - raw.base.toNat)
  else
    .error (.invalidAddress address)

/-- The range of the store that a register takes. -/
def span (raw : RawController β) (index : Nat) : Checked (Nat × Nat) := do
  let start ← item raw.offsets index
  let register ← item raw.registers index
  pure (start, start + register.size)

def stored (raw : RawController β) (index : Nat) : Checked Bytes := do
  let (start, stop) ← raw.span index
  slice raw.bytes start stop

def putStored (raw : RawController β) (index : Nat) (data : Bytes) :
    Checked (RawController β) := do
  let (start, stop) ← raw.span index
  let bytes ← copy raw.bytes start stop data
  pure { raw with bytes }

def load (raw : RawController β) (address : UInt8) (contents : Bytes) :
    Checked (Except RequestError (RawController β)) :=
  match raw.locate address with
  | .error reason => .ok (.error reason)
  | .ok index => do
    let register ← item raw.registers index
    if contents.length = register.size then do
      let loaded ← raw.putStored index contents
      pure (.ok loaded)
    else pure (.error (.sizeMismatch register.size contents.length))

def loadAll (raw : RawController β) :
    List (UInt8 × Bytes) → Checked (Except RequestError (RawController β))
  | [] => .ok (.ok raw)
  | (address, contents) :: rest => do
    match ← raw.load address contents with
    | .error reason => pure (.error reason)
    | .ok loaded => loaded.loadAll rest

def start (registers : List Register) (storeSize : Nat) (pins : β) (signals : Signals)
    (contents : List (UInt8 × Bytes)) : Checked (Except BootError (RawController β)) := do
  match ← bind registers storeSize pins signals with
  | .error cause => pure (.error (.layout cause))
  | .ok bound => do
    match ← bound.loadAll contents with
    | .error cause => pure (.error (.contents cause))
    | .ok loaded => pure (.ok loaded)

def descriptor (raw : RawController β) (address : UInt8) :
    Checked (Except RequestError Descriptor) :=
  match raw.locate address with
  | .error reason => .ok (.error reason)
  | .ok index => do
    let register ← item raw.registers index
    pure (.ok register.descriptor)

/-- Take time off pulses and collect the lines of those that end. -/
def advance (elapsed : Nat) :
    (ended : List OutputLine) → List Pulse → Checked (List OutputLine × List Pulse)
  | ended, [] => .ok (ended, [])
  | ended, pulse :: rest =>
    if pulse.remaining ≤ elapsed then do
      let ended ← push Pulses.capacity ended pulse.line
      advance elapsed ended rest
    else do
      let remaining ← subtract pulse.remaining elapsed
      let (ended, kept) ← advance elapsed ended rest
      pure (ended, { pulse with remaining } :: kept)

def canArm (running : List Pulse) (line : OutputLine) : Bool :=
  decide (running.length < Pulses.capacity) || running.any (·.isOn line.pin)

/-- Start a pulse, or the one on the line's pin anew. -/
def arm (running : List Pulse) (line : OutputLine) (duration : Nat) : Checked (List Pulse) :=
  if running.any (·.isOn line.pin) then .ok (Pulses.rearmed running line duration)
  else push Pulses.capacity running ⟨line, duration⟩

/-- Collect the addresses of the flagged registers that may be reported. -/
def collect (raw : RawController β) (flags : BitVec 32) :
    (events : List UInt8) → (indices : List Nat) → Checked (List UInt8)
  | events, [] => .ok events
  | events, index :: rest => do
    let flag ← shiftUp 1#32 index
    if flags &&& flag = 0 then raw.collect flags events rest
    else
      let register ← item raw.registers index
      if register.descriptor.access.event then
        let address ← addByte raw.base index
        let events ← push Signals.flagCount events address
        raw.collect flags events rest
      else raw.collect flags events rest

def takeEvents (raw : RawController β) : Checked (List UInt8 × RawController β) := do
  let (flags, signals) := raw.signals.takeFlags
  let events ← raw.collect flags [] (List.range raw.registers.length)
  pure (events, { raw with signals })

variable [PinDriver β]

/-- The levels of pins as the bits of a word, the first of them at a position. -/
def pinBits (pins : β) (word : BitVec 64) :
    (position : Nat) → List Pin → Checked (BitVec 64)
  | _, [] => .ok word
  | position, pin :: rest =>
    if PinDriver.read pins pin then do
      let bit ← shiftUp 1#64 position
      pinBits pins (word ||| bit) (position + 1) rest
    else pinBits pins word (position + 1) rest

def sampled (raw : RawController β) (register : Register) (held : Bytes) : Checked Bytes :=
  match register.behaviour with
  | .pins inputs => do
    let word ← pinBits raw.pins 0 0 inputs
    putBits register.descriptor.kind word held
  | .latch window => readLatch raw.signals window held
  | .counter counter _ =>
    putBits register.descriptor.kind ((raw.signals.count counter).toBitVec.setWidth 64) held
  | .constant | .setting _ | .drive _ _ | .pulse _ _ => .ok held

def read (raw : RawController β) (address : UInt8) :
    Checked (Except RequestError Bytes × RawController β) :=
  match raw.locate address with
  | .error reason => .ok (.error reason, raw)
  | .ok index => do
    let register ← item raw.registers index
    let held ← raw.stored index
    let sample ← raw.sampled register held
    let refreshed ← raw.putStored index sample
    let shown ← refreshed.stored index
    pure (.ok shown, refreshed)

/-- Drive lines by the bits of a word, the first of them by the bit at a position. -/
def driveLines (raw : RawController β) (word : BitVec 64) :
    (position : Nat) → List OutputLine → Checked (RawController β)
  | _, [] => .ok raw
  | position, line :: rest => do
    let bit ← shiftUp 1#64 position
    let driven := {
      raw with
      running := raw.running.filter fun pulse => !pulse.isOn line.pin
      pins := PinDriver.drive raw.pins line (decide (word &&& bit ≠ 0)) }
    driven.driveLines word (position + 1) rest

def pulseDuration? (kind : Element.Kind) (payload : Bytes) : Checked (Option Nat) := do
  match ← integer? kind payload with
  | some value =>
    pure (if 0 < value.toInt ∧ value.toInt < 0x100000000 then some value.toInt.toNat else none)
  | none => pure none

def perform (raw : RawController β) (index : Nat) (register : Register) (payload : Bytes) :
    Checked (Attempt RequestError (RawController β)) :=
  let kind := register.descriptor.kind
  match register.behaviour with
  | .pins _ | .latch _ | .constant => .ok (.refused .rejected raw)
  | .setting rule => do
    if ← accepts rule kind payload then
      let stored ← raw.putStored index payload
      pure (.accepted stored)
    else pure (.refused .rejected raw)
  | .drive rule lines => do
    if ← accepts rule kind payload then
      let stored ← raw.putStored index payload
      let word ← bits kind payload
      let driven ← stored.driveLines word 0 lines
      pure (.accepted driven)
    else pure (.refused .rejected raw)
  | .pulse rule line => do
    if ← accepts rule kind payload then
      match ← pulseDuration? kind payload with
      | none => pure (.refused .rejected raw)
      | some duration =>
        if canArm raw.running line then
          let stored ← raw.putStored index payload
          let running ← arm stored.running line duration
          pure (.accepted { stored with running, pins := PinDriver.drive stored.pins line true })
        else pure (.refused .rejected raw)
    else pure (.refused .rejected raw)
  | .counter counter resettable =>
    if resettable && payload.all (· == 0) then do
      let reset := { raw with signals := raw.signals.reset counter }
      let held ← reset.stored index
      let stored ← reset.putStored index (Bytes.zeros held.length)
      pure (.accepted stored)
    else .ok (.refused .rejected raw)

def write (raw : RawController β) (address : UInt8) (payload : Bytes) :
    Checked (Attempt RequestError (RawController β)) :=
  match raw.locate address with
  | .error reason => .ok (.refused reason raw)
  | .ok index => do
    let register ← item raw.registers index
    if payload.length = register.size then raw.perform index register payload
    else pure (.refused (.sizeMismatch register.size payload.length) raw)

def tick (raw : RawController β) (elapsed : Nat) : Checked (RawController β) := do
  let (ended, running) ← advance elapsed [] raw.running
  pure { raw with running, pins := Controller.release raw.pins ended }

end RawController

end Instrument

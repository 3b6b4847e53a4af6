import Instrument.Controller.Basic

/-!
# Ticks and events

A tick lets time pass for the pulse timers and releases the lines whose pulse
ended.  Taking the events lowers all event flags and lists the registers flagged
that may be reported.
-/

namespace Instrument.Controller

variable {β : Type} [PinDriver β]

/-- Make lines inactive, in order. -/
def release (pins : β) (lines : List OutputLine) : β :=
  lines.foldl (fun pins line => PinDriver.drive pins line false) pins

/-- Let a number of milliseconds pass. -/
def tick (controller : Controller β) (elapsed : Nat) : Controller β :=
  let (ended, pulses) := controller.pulses.advance elapsed
  { controller with pulses, pins := release controller.pins ended }

omit [PinDriver β] in
/-- The indices of the registers with event access among the flags, in order. -/
def flaggedEvents (layout : Layout) (flags : BitVec 32) : List (Fin layout.size) :=
  (List.finRange layout.size).filter fun index =>
    flags.getLsbD index && (layout.register index).descriptor.access.event

omit [PinDriver β] in
/-- Lower all event flags; the answer lists the addresses of the registers that
were flagged and may be reported. -/
def takeEvents (controller : Controller β) : List UInt8 × Controller β :=
  let (flags, signals) := controller.signals.takeFlags
  ((flaggedEvents controller.layout flags).map controller.layout.addressOf,
    { controller with signals })

end Instrument.Controller

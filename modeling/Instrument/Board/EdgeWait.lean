import Instrument.Board.ChipPins

/-!
# Waiting for an edge

The chip can wait for the first armed input whose trigger comes about.  A wait
begins with its first poll: from then on it remembers in which directions each pad
has changed, while a level is looked at only when polled.  A pin is armed if it is
an input that some line of its port watches, and the first such line counts.
-/

namespace Instrument.Board

/-- The directions in which a pad has changed during a wait. -/
structure EdgesSeen where
  rising : Bool := false
  falling : Bool := false
  deriving DecidableEq, Inhabited

/-- A wait that has begun: the edges seen on each pad. -/
structure EdgeWait where
  seen : Vector EdgesSeen 21
  deriving DecidableEq

/-- One change applied to a pin from outside. -/
structure ExternalChange where
  pin : Pin
  external : Option Bool
  /-- Whether another change follows at once. -/
  more : Bool := false

/-- An interrupt that has come about: a port and a line of it. -/
abbrev FiredInterrupt := Port × InterruptLine

/-- How a series of changes ended for a wait. -/
inductive WaitOutcome where
  /-- The interrupt came about after so many changes. -/
  | fired (interrupt : FiredInterrupt) (changes : Nat)
  | pending

namespace EdgeWait

/-- A wait that has just begun. -/
def begun : EdgeWait := ⟨Vector.replicate 21 {}⟩

/-- Take notice of what changed on the pads between two moments. -/
def observe (wait : EdgeWait) (before after : ChipPins) : EdgeWait :=
  ⟨Vector.ofFn fun pad =>
    let was := (before.pins.get pad).pad.level
    let now := (after.pins.get pad).pad.level
    { rising := (wait.seen.get pad).rising || (!was && now)
      falling := (wait.seen.get pad).falling || (was && !now) }⟩

/-- Whether a trigger has come about on a pad. -/
def triggered (wait : EdgeWait) (chip : ChipPins) (pad : Fin 21) (trigger : Trigger) : Bool :=
  let seen := wait.seen.get pad
  match trigger with
  | .risingEdge => seen.rising
  | .fallingEdge => seen.falling
  | .anyEdge => seen.rising || seen.falling
  | .low => !(chip.pins.get pad).pad.level
  | .high => (chip.pins.get pad).pad.level

/-- The interrupt of the pin on a pad, if the pin is armed and its trigger has come
about. -/
def fired? (wait : EdgeWait) (chip : ChipPins) (pad : Fin 21) : Option FiredInterrupt :=
  let pin := wiredPins.get pad
  match (chip.pins.get pad).role with
  | .input sense =>
    match (chip.interrupts.get pin.port).watching? pin with
    | some (line, armed) =>
      if wait.triggered chip pad (sense.trigger armed.inverted) then some (pin.port, line)
      else none
    | none => none
  | _ => none

/-- Poll the wait: the first interrupt in pad order that has come about. -/
def poll? (wait : EdgeWait) (chip : ChipPins) : Option FiredInterrupt :=
  (List.finRange 21).findSome? fun pad => wait.fired? chip pad

/-- Apply changes one by one and poll the wait, though not between a change and
one that follows it at once, until an interrupt has come about. -/
def afterChanges (wait : EdgeWait) (applied : Nat) :
    (chip : ChipPins) → List ExternalChange → WaitOutcome × ChipPins
  | chip, [] => (.pending, chip)
  | chip, change :: rest =>
    let changed := chip.applyExternal change.pin change.external
    let observed := wait.observe chip changed
    match if change.more then none else observed.poll? changed with
    | some interrupt => (.fired interrupt (applied + 1), changed)
    | none => observed.afterChanges (applied + 1) changed rest

/-- Begin a wait, poll it, and go through changes until an interrupt has come
about. -/
def through (chip : ChipPins) (changes : List ExternalChange) : WaitOutcome × ChipPins :=
  match begun.poll? chip with
  | some interrupt => (.fired interrupt 0, chip)
  | none => begun.afterChanges 0 chip changes

end EdgeWait

end Instrument.Board

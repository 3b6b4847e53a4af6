import Instrument.Board.EdgeWait
import Instrument.Firmware.Message
import Instrument.Firmware.Queue
import Instrument.Firmware.Sampling

/-!
# The running firmware

Two tasks share the machine.  The register task owns the controller and serves one
event at a time, looking each time from the top: a queued request, a tick that is
due, an edge.  A wait for an edge lasts until the task has served something; an edge
that the wait saw is lost if something else is served first.  The analog task
samples once each period that is due.  Replies and reports go to bounded queues, and
what finds no room is dropped.
-/

namespace Instrument.Firmware

/-- The state of the machine. -/
structure Machine where
  controller : Controller Board.ChipPins
  wait : Option Board.EdgeWait := none
  requests : Queue Request 4 := .empty
  replies : Queue Reply 4 := .empty
  reports : Queue Report 8 := .empty
  /-- What conversions give from now on. -/
  conversions : Conversions := Vector.replicate 5 (some 0)
  now : Nat := 0
  nextTick : Nat := 1
  nextSample : Nat := samplePeriod

namespace Machine

/-- Serve the oldest request, if one is queued. -/
def serveRequest? (machine : Machine) : Option Machine :=
  match machine.requests.pop? with
  | none => none
  | some (request, requests) =>
    let (reply, controller) := answer machine.controller request
    some { machine with
      controller, requests, replies := machine.replies.offer reply, wait := none }

/-- Serve a tick, if one is due. -/
def serveTick? (machine : Machine) : Option Machine :=
  if machine.nextTick ≤ machine.now then
    let (reports, controller) := onTick machine.controller
    some { machine with
      controller
      reports := reports.foldl (fun queue report => queue.offer report) machine.reports
      nextTick := machine.nextTick + 1
      wait := none }
  else
    none

/-- Look at the edges: begin a wait unless one lasts, and poll it. -/
def lookAtEdges (machine : Machine) : Option Board.FiredInterrupt × Machine :=
  let wait := machine.wait.getD .begun
  (wait.poll? machine.controller.pins, { machine with wait := some wait })

/-- Take one turn of the register task; the answer says whether it served
something. -/
def registerTurn (machine : Machine) : Bool × Machine :=
  match machine.serveRequest? with
  | some served => (true, served)
  | none =>
    match machine.serveTick? with
    | some served => (true, served)
    | none =>
      match machine.lookAtEdges with
      | (some (port, line), looked) =>
        (true, { looked with
          controller := NosePoke.interrupt looked.controller port line, wait := none })
      | (none, looked) => (false, looked)

/-- Take turns of the register task until it serves nothing, but no more than a
number of turns. -/
def registerTurns : (turns : Nat) → Machine → Machine
  | 0, machine => machine
  | turns + 1, machine =>
    match machine.registerTurn with
    | (true, served) => registerTurns turns served
    | (false, idle) => idle

/-- Enough turns for every queued request, every tick that is due, one edge and the
look that finds nothing more.  Nothing adds to these while the task runs, and a new
wait has seen no edge. -/
def turnsDue (machine : Machine) : Nat :=
  machine.requests.size + (machine.now + 1 - machine.nextTick) + 2

/-- Run the register task until it is idle. -/
def runRegisterTask (machine : Machine) : Machine :=
  registerTurns machine.turnsDue machine

/-- Sample, if a sample is due. -/
def serveSample? (machine : Machine) : Option Machine :=
  if machine.nextSample ≤ machine.now then
    some { machine with
      controller := { machine.controller with
        signals := sample machine.controller.signals machine.conversions }
      nextSample := machine.nextSample + samplePeriod }
  else
    none

/-- Take turns of the analog task until no sample is due, but no more than a number
of turns. -/
def analogTurns : (turns : Nat) → Machine → Machine
  | 0, machine => machine
  | turns + 1, machine =>
    match machine.serveSample? with
    | some served => analogTurns turns served
    | none => machine

/-- Run the analog task until it is idle; each turn moves the next sample past at
least one more millisecond. -/
def runAnalogTask (machine : Machine) : Machine :=
  analogTurns (machine.now + 1 - machine.nextSample) machine

/-- Run both tasks until they are idle. -/
def run (machine : Machine) : Machine := machine.runRegisterTask.runAnalogTask

def submit? (machine : Machine) (request : Request) : Option Machine :=
  (machine.requests.push? request).map fun requests => { machine with requests }

/-- Fetch all replies and reports. -/
def drain (machine : Machine) : (List Reply × List Report) × Machine :=
  ((machine.replies.items, machine.reports.items),
    { machine with replies := .empty, reports := .empty })

/-- Apply a level to a pad from outside, or nothing; a wait that lasts sees it. -/
def applyExternal (machine : Machine) (pin : Pin) (external : Option Bool) : Machine :=
  let pins := machine.controller.pins.applyExternal pin external
  { machine with
    controller := { machine.controller with pins }
    wait := machine.wait.map fun wait => wait.observe machine.controller.pins pins }

def elapse (machine : Machine) (milliseconds : Nat) : Machine :=
  { machine with now := machine.now + milliseconds }

/-- Start the firmware on a chip after reset, with levels applied to its pads, and
run both tasks until they are idle. -/
def boot (external : List (Pin × Option Bool)) : Except BootError Machine :=
  let chip := external.foldl
    (fun chip (pin, level) => chip.applyExternal pin level) Board.ChipPins.reset
  match (NosePoke.boot chip .clear).1 with
  | .error cause => .error cause
  | .ok controller => .ok (Machine.run { controller })

end Machine

end Instrument.Firmware

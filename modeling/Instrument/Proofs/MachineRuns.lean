import Instrument.Firmware.Machine

/-!
# Runs of the machine

The engine, the clock, the world outside and the two tasks act in any order; a run is any
finite sequence of their actions.  Whatever the schedule, the controller only goes through
the calls in the history of the run, one after the other.
-/

namespace Instrument.Firmware

open Board

/-- Something that is done to the controller. -/
inductive Call where
  | serve (request : Request)
  | tick
  | interrupt (port : Port) (line : InterruptLine)
  | sample (conversions : Conversions)
  | external (pin : Pin) (level : Option Bool)

namespace Call

def after (controller : Controller ChipPins) : Call → Controller ChipPins
  | .serve request => (answer controller request).2
  | .tick => (onTick controller).2
  | .interrupt port line => NosePoke.interrupt controller port line
  | .sample conversions =>
    { controller with signals := Firmware.sample controller.signals conversions }
  | .external pin level => { controller with pins := controller.pins.applyExternal pin level }

def afterAll (controller : Controller ChipPins) (calls : List Call) : Controller ChipPins :=
  calls.foldl after controller

/-- What some calls make up, one after the other. -/
def along {α : Type} (result : Controller ChipPins → Call → List α)
    (controller : Controller ChipPins) : List Call → List α
  | [] => []
  | call :: rest => result controller call ++ along result (call.after controller) rest

theorem along_append {α : Type} (result : Controller ChipPins → Call → List α)
    (controller : Controller ChipPins) (front back : List Call) :
    along result controller (front ++ back) =
      along result controller front ++ along result (afterAll controller front) back := by
  induction front generalizing controller with
  | nil => rfl
  | cons call rest induction =>
      rw [List.cons_append, along, along, induction, List.append_assoc]
      rfl

end Call

/-- An action of the engine, the world outside or a task. -/
inductive Action where
  | submit (request : Request)
  | takeReply
  | takeReport
  | applyExternal (pin : Pin) (level : Option Bool)
  | elapse (milliseconds : Nat)
  | convert (conversions : Conversions)
  | registerTurn
  | analogTurn

namespace Machine

/-- What a turn of the register task does to the controller: the oldest request goes before
a tick that is due, and both go before an edge. -/
def turnCall? (machine : Machine) : Option Call :=
  match machine.requests.items with
  | request :: _ => some (.serve request)
  | [] =>
    if machine.nextTick ≤ machine.now then some .tick
    else
      ((machine.wait.getD .begun).poll? machine.controller.pins).map fun fired =>
        .interrupt fired.1 fired.2

def call? (machine : Machine) : Action → Option Call
  | .registerTurn => machine.turnCall?
  | .analogTurn =>
    if machine.nextSample ≤ machine.now then some (.sample machine.conversions) else none
  | .applyExternal pin level => some (.external pin level)
  | .submit _ | .takeReply | .takeReport | .elapse _ | .convert _ => none

/-- The machine after an action.  A request for which there is no room is not submitted. -/
def after (machine : Machine) : Action → Machine
  | .submit request => (machine.submit? request).getD machine
  | .takeReply =>
    match machine.replies.pop? with
    | some (_, replies) => { machine with replies }
    | none => machine
  | .takeReport =>
    match machine.reports.pop? with
    | some (_, reports) => { machine with reports }
    | none => machine
  | .applyExternal pin level => machine.applyExternal pin level
  | .elapse milliseconds => machine.elapse milliseconds
  | .convert conversions => { machine with conversions }
  | .registerTurn => machine.registerTurn.2
  | .analogTurn => machine.serveSample?.getD machine

def follow (machine : Machine) (actions : List Action) : Machine :=
  actions.foldl after machine

theorem follow_append (machine : Machine) (front back : List Action) :
    machine.follow (front ++ back) = (machine.follow front).follow back :=
  List.foldl_append

/-- What the actions of a run make up, one after the other. -/
def collect {α : Type} (result : Machine → Action → List α) (machine : Machine) :
    List Action → List α
  | [] => []
  | action :: rest => result machine action ++ (machine.after action).collect result rest

theorem collect_append {α : Type} (result : Machine → Action → List α) (machine : Machine)
    (front back : List Action) :
    machine.collect result (front ++ back) =
      machine.collect result front ++ (machine.follow front).collect result back := by
  induction front generalizing machine with
  | nil => rfl
  | cons action rest induction =>
      rw [List.cons_append, collect, collect, induction, List.append_assoc]
      rfl

/-- What is done to the controller in a run, in order. -/
def history (machine : Machine) (actions : List Action) : List Call :=
  machine.collect (fun reached action => (reached.call? action).toList) actions

/-- How a turn of the register task ends: with a request, a tick, an edge, or in a wait. -/
inductive TurnEnds (machine : Machine) : Option Call → Bool × Machine → Prop where
  | request {request : Request} {rest : Queue Request 4} :
      machine.requests.pop? = some (request, rest) →
      TurnEnds machine (some (.serve request)) (true, { machine with
        controller := (Call.serve request).after machine.controller
        requests := rest
        replies := machine.replies.offer (answer machine.controller request).1
        wait := none })
  | tick :
      machine.requests.items = [] → machine.nextTick ≤ machine.now →
      TurnEnds machine (some .tick) (true, { machine with
        controller := Call.tick.after machine.controller
        reports := (onTick machine.controller).1.foldl
          (fun queue report => queue.offer report) machine.reports
        nextTick := machine.nextTick + 1
        wait := none })
  | edge {port : Port} {line : InterruptLine} :
      machine.requests.items = [] → ¬ machine.nextTick ≤ machine.now →
      (machine.wait.getD .begun).poll? machine.controller.pins = some (port, line) →
      TurnEnds machine (some (.interrupt port line)) (true, { machine with
        controller := (Call.interrupt port line).after machine.controller
        wait := none })
  | idle :
      machine.requests.items = [] → ¬ machine.nextTick ≤ machine.now →
      (machine.wait.getD .begun).poll? machine.controller.pins = none →
      TurnEnds machine none (false, { machine with wait := some (machine.wait.getD .begun) })

theorem turn_ends (machine : Machine) :
    TurnEnds machine machine.turnCall? machine.registerTurn := by
  cases taken : machine.requests.pop? with
  | some oldest =>
      obtain ⟨request, rest⟩ := oldest
      have call : machine.turnCall? = some (.serve request) := by
        rw [turnCall?, Queue.items_of_pop? taken]
      have turn : machine.registerTurn = (true, { machine with
          controller := (Call.serve request).after machine.controller
          requests := rest
          replies := machine.replies.offer (answer machine.controller request).1
          wait := none }) := by
        simp only [registerTurn, serveRequest?, taken]
        rfl
      rw [call, turn]
      exact .request taken
  | none =>
      have empty := Queue.items_eq_nil_of_pop? taken
      by_cases due : machine.nextTick ≤ machine.now
      · have call : machine.turnCall? = some .tick := by
          rw [turnCall?, empty, if_pos due]
        have turn : machine.registerTurn = (true, { machine with
            controller := Call.tick.after machine.controller
            reports := (onTick machine.controller).1.foldl
              (fun queue report => queue.offer report) machine.reports
            nextTick := machine.nextTick + 1
            wait := none }) := by
          simp only [registerTurn, serveRequest?, taken, serveTick?, if_pos due]
          rfl
        rw [call, turn]
        exact .tick empty due
      · have turn : machine.registerTurn =
            match (machine.wait.getD .begun).poll? machine.controller.pins with
            | some (port, line) => (true, { machine with
                controller := (Call.interrupt port line).after machine.controller
                wait := none })
            | none => (false, { machine with wait := some (machine.wait.getD .begun) }) := by
          simp only [registerTurn, serveRequest?, taken, serveTick?, if_neg due, lookAtEdges]
          cases (machine.wait.getD .begun).poll? machine.controller.pins with
          | none => rfl
          | some fired => rfl
        rw [turnCall?, empty, if_neg due, turn]
        cases fired : (machine.wait.getD .begun).poll? machine.controller.pins with
        | none => exact .idle empty due fired
        | some interrupt =>
            obtain ⟨port, line⟩ := interrupt
            exact .edge empty due fired

/-- How an action ends, and what it does to the controller. -/
inductive ActionEnds (machine : Machine) : Action → Option Call → Machine → Prop where
  | submitted {request : Request} {requests : Queue Request 4} :
      machine.requests.size < 4 →
      requests.items = machine.requests.items ++ [request] →
      ActionEnds machine (.submit request) none { machine with requests }
  | full {request : Request} :
      ¬ machine.requests.size < 4 → ActionEnds machine (.submit request) none machine
  | replyTaken {reply : Reply} {replies : Queue Reply 4} :
      machine.replies.items = reply :: replies.items →
      ActionEnds machine .takeReply none { machine with replies }
  | noReply : machine.replies.items = [] → ActionEnds machine .takeReply none machine
  | reportTaken {report : Report} {reports : Queue Report 8} :
      machine.reports.items = report :: reports.items →
      ActionEnds machine .takeReport none { machine with reports }
  | noReport : machine.reports.items = [] → ActionEnds machine .takeReport none machine
  | applied {pin : Pin} {level : Option Bool} :
      ActionEnds machine (.applyExternal pin level) (some (.external pin level))
        (machine.applyExternal pin level)
  | elapsed {milliseconds : Nat} :
      ActionEnds machine (.elapse milliseconds) none (machine.elapse milliseconds)
  | converted {conversions : Conversions} :
      ActionEnds machine (.convert conversions) none { machine with conversions }
  | turned {call : Option Call} {outcome : Bool × Machine} :
      TurnEnds machine call outcome → ActionEnds machine .registerTurn call outcome.2
  | sampled :
      machine.nextSample ≤ machine.now →
      ActionEnds machine .analogTurn (some (.sample machine.conversions)) { machine with
        controller := (Call.sample machine.conversions).after machine.controller
        nextSample := machine.nextSample + samplePeriod }
  | early :
      ¬ machine.nextSample ≤ machine.now → ActionEnds machine .analogTurn none machine

theorem action_ends (machine : Machine) (action : Action) :
    ActionEnds machine action (machine.call? action) (machine.after action) := by
  cases action with
  | submit request =>
      rw [after, submit?, Queue.push?]
      split
      · exact .submitted ‹_› rfl
      · exact .full ‹_›
  | takeReply =>
      rw [after]
      split
      · exact .replyTaken (Queue.items_of_pop? ‹_›)
      · exact .noReply (Queue.items_eq_nil_of_pop? ‹_›)
  | takeReport =>
      rw [after]
      split
      · exact .reportTaken (Queue.items_of_pop? ‹_›)
      · exact .noReport (Queue.items_eq_nil_of_pop? ‹_›)
  | applyExternal pin level => exact .applied
  | elapse milliseconds => exact .elapsed
  | convert conversions => exact .converted
  | registerTurn => exact .turned machine.turn_ends
  | analogTurn =>
      rw [after, call?, serveSample?]
      split
      · exact .sampled ‹_›
      · exact .early ‹_›

/-- An action reaches the controller by its call alone. -/
theorem controller_after (machine : Machine) (action : Action) :
    (machine.after action).controller =
      Call.afterAll machine.controller (machine.call? action).toList := by
  have ended := machine.action_ends action
  generalize machine.call? action = call at ended ⊢
  generalize machine.after action = reached at ended ⊢
  cases ended with
  | turned ended => cases ended <;> rfl
  | _ => rfl

theorem controller_follow (machine : Machine) (actions : List Action) :
    (machine.follow actions).controller =
      Call.afterAll machine.controller (machine.history actions) := by
  induction actions generalizing machine with
  | nil => rfl
  | cons action rest induction =>
      change ((machine.after action).follow rest).controller = _
      rw [induction, controller_after]
      exact List.foldl_append.symm

theorem exists_follow_registerTurns (turns : Nat) (machine : Machine) :
    ∃ actions, registerTurns turns machine = machine.follow actions := by
  induction turns generalizing machine with
  | zero => exact ⟨[], rfl⟩
  | succ turns induction =>
      rw [registerTurns]
      split
      · rename_i served turn
        obtain ⟨actions, same⟩ := induction served
        refine ⟨.registerTurn :: actions, ?_⟩
        have after : machine.after .registerTurn = served := congrArg Prod.snd turn
        rw [same, ← after]
        rfl
      · rename_i turn
        exact ⟨[.registerTurn], (congrArg Prod.snd turn).symm⟩

theorem exists_follow_analogTurns (turns : Nat) (machine : Machine) :
    ∃ actions, analogTurns turns machine = machine.follow actions := by
  induction turns generalizing machine with
  | zero => exact ⟨[], rfl⟩
  | succ turns induction =>
      rw [analogTurns]
      split
      · rename_i served sample
        obtain ⟨actions, same⟩ := induction served
        refine ⟨.analogTurn :: actions, ?_⟩
        have after : machine.after .analogTurn = served := congrArg (·.getD machine) sample
        rw [same, ← after]
        rfl
      · exact ⟨[], rfl⟩

/-- Running both tasks until they are idle is one of the orders in which they may act. -/
theorem exists_follow_run (machine : Machine) :
    ∃ actions, machine.run = machine.follow actions := by
  obtain ⟨turns, registered⟩ := exists_follow_registerTurns machine.turnsDue machine
  obtain ⟨samples, sampled⟩ := exists_follow_analogTurns
    (machine.runRegisterTask.now + 1 - machine.runRegisterTask.nextSample) machine.runRegisterTask
  refine ⟨turns ++ samples, ?_⟩
  rw [follow_append, ← registered]
  exact sampled

end Machine

end Instrument.Firmware

import Instrument.Proofs.TaskCalls

/-!
# Edges that the register task catches

The register task learns of an edge only from the wait that lasts when the level changes,
and it gives up the wait whenever it serves something.  A turn runs the routine of an
input exactly if no request is queued, no tick is due, and the level of the input has
changed since the wait began; several changes in one wait run it once.  Edges are
therefore lost while no wait lasts, behind a request or a tick, and behind each other.
-/

namespace Instrument.Firmware

open Board NosePoke

namespace Machine

/-- Whether an action changes the level of the pad of a pin. -/
def flips (machine : Machine) (pin : Pin) (action : Action) : Bool :=
  machine.controller.pins.padLevel pin != (machine.after action).controller.pins.padLevel pin

/-- Whether an action is a turn in which the register task serves something. -/
def serves (machine : Machine) : Action → Bool
  | .registerTurn => machine.turnCall?.isSome
  | _ => false

def Undisturbed (machine : Machine) : List Action → Prop
  | [] => True
  | action :: rest => machine.serves action = false ∧ (machine.after action).Undisturbed rest

/-- The level of a pin changed while a wait lasted, and nothing was served after that. -/
def Noticed (machine : Machine) (actions : List Action) (pin : Pin) : Prop :=
  ∃ before action after, actions = before ++ action :: after ∧
    (machine.follow before).wait.isSome = true ∧
      (machine.follow before).flips pin action = true ∧
        (machine.follow before).Undisturbed (action :: after)

theorem noticed_cons {machine : Machine} {action : Action} {rest : List Action} {pin : Pin} :
    machine.Noticed (action :: rest) pin ↔
      (machine.after action).Noticed rest pin ∨
        machine.wait.isSome = true ∧ machine.flips pin action = true ∧
          machine.Undisturbed (action :: rest) := by
  constructor
  · intro noticed
    obtain ⟨before, flipping, after, split, noticed⟩ := noticed
    cases before with
    | nil =>
        cases split
        exact .inr noticed
    | cons head before =>
        cases split
        exact .inl ⟨before, flipping, after, rfl, noticed⟩
  · rintro (⟨before, flipping, after, rfl, noticed⟩ | noticed)
    · exact ⟨action :: before, flipping, after, rfl, noticed⟩
    · exact ⟨[], action, rest, rfl, noticed⟩

/-- Whether the wait that lasts has seen the level of a pin change. -/
def sees (machine : Machine) (pin : Pin) : Bool := machine.wait.any (·.sees pin)

theorem sees_getD (machine : Machine) (pin : Pin) :
    (machine.wait.getD .begun).sees pin = machine.sees pin := by
  rw [sees]
  cases machine.wait with
  | none => exact EdgeWait.sees_begun pin
  | some wait => rfl

/-- A turn that serves something gives up the wait; one that does not leaves it as it was
or begins one. -/
theorem turn_waits (machine : Machine) :
    machine.turnCall?.isSome = true ∧ machine.registerTurn.2.wait = none ∨
      machine.turnCall? = none ∧ machine.registerTurn.2 =
        { machine with wait := some (machine.wait.getD .begun) } := by
  have ended := machine.turn_ends
  generalize machine.registerTurn = outcome at ended ⊢
  generalize machine.turnCall? = call at ended ⊢
  cases ended with
  | request | tick | edge => exact .inl ⟨rfl, rfl⟩
  | idle => exact .inr ⟨rfl, rfl⟩

/-- Turns of the register task and the world outside apart, no action reaches the wait or
the pads. -/
theorem after_elsewhere (machine : Machine) {action : Action} (turn : action ≠ .registerTurn)
    (outside : ∀ pin level, action ≠ .applyExternal pin level) :
    (machine.after action).wait = machine.wait ∧
      (machine.after action).controller.pins = machine.controller.pins := by
  have ended := machine.action_ends action
  generalize machine.call? action = call at ended
  generalize machine.after action = reached at ended ⊢
  cases ended with
  | turned => exact absurd rfl turn
  | applied => exact absurd rfl (outside _ _)
  | _ => exact ⟨rfl, rfl⟩

theorem serves_eq_false (machine : Machine) {action : Action} (turn : action ≠ .registerTurn) :
    machine.serves action = false := by
  cases action with
  | registerTurn => exact absurd rfl turn
  | _ => rfl

theorem sees_after (machine : Machine) (action : Action) (pin : Pin) :
    (machine.after action).sees pin =
      (!machine.serves action &&
        (machine.sees pin || machine.wait.isSome && machine.flips pin action)) := by
  by_cases turn : action = .registerTurn
  · subst turn
    rw [flips, after, serves]
    rcases machine.turn_waits with ⟨served, ended⟩ | ⟨idle, waiting⟩
    · rw [served, sees, ended]
      rfl
    · rw [idle, waiting, ← machine.sees_getD]
      simp [sees]
  · rw [machine.serves_eq_false turn, Bool.not_false, Bool.true_and]
    by_cases outside : ∃ moved level, action = .applyExternal moved level
    · obtain ⟨moved, level, rfl⟩ := outside
      rw [sees, sees, flips, after, Machine.applyExternal]
      cases machine.wait with
      | none => rfl
      | some wait => simp [EdgeWait.sees_observe]
    · obtain ⟨wait, pads⟩ := machine.after_elsewhere turn
        fun moved level same => outside ⟨moved, level, same⟩
      rw [flips, pads, sees, sees, wait]
      simp

theorem sees_follow (machine : Machine) (actions : List Action) (pin : Pin) :
    (machine.follow actions).sees pin = true ↔
      machine.Noticed actions pin ∨ machine.sees pin = true ∧ machine.Undisturbed actions := by
  induction actions generalizing machine with
  | nil => simp [Noticed, follow, Undisturbed]
  | cons action rest induction =>
      have later := induction (machine.after action)
      rw [sees_after] at later
      rw [noticed_cons]
      refine later.trans ?_
      simp only [Undisturbed, Bool.and_eq_true, Bool.or_eq_true, Bool.not_eq_true']
      constructor
      · rintro (noticed | ⟨⟨idle, seen | ⟨lasts, flipped⟩⟩, undisturbed⟩)
        · exact .inl (.inl noticed)
        · exact .inr ⟨seen, idle, undisturbed⟩
        · exact .inl (.inr ⟨lasts, flipped, idle, undisturbed⟩)
      · rintro ((noticed | ⟨lasts, flipped, idle, undisturbed⟩) | ⟨seen, idle, undisturbed⟩)
        · exact .inl noticed
        · exact .inr ⟨⟨idle, .inr ⟨lasts, flipped⟩⟩, undisturbed⟩
        · exact .inr ⟨⟨idle, .inl seen⟩, undisturbed⟩

/-- A turn runs the routine of the first shown input that the wait has seen change, unless a
request or a tick goes before it. -/
theorem turnCall?_eq_interrupt_iff {machine : Machine}
    (attentive : Attentive machine.controller.pins) (port : Port) (line : InterruptLine) :
    machine.turnCall? = some (.interrupt port line) ↔
      machine.requests.items = [] ∧ machine.now < machine.nextTick ∧ line = inputLine ∧
        ∃ front pin back, shownInputs = front ++ pin :: back ∧ pin.port = port ∧
          machine.sees pin = true ∧ ∀ other ∈ front, ¬ machine.sees other = true := by
  have unseen : (machine.wait.getD .begun).sees = machine.sees := funext machine.sees_getD
  rw [turnCall?]
  cases machine.requests.items with
  | cons request rest => simp
  | nil =>
      by_cases due : machine.nextTick ≤ machine.now
      · have late : ¬ machine.now < machine.nextTick := Nat.not_lt.mpr due
        simp [due, late]
      · simp only [if_neg due, attentive.poll?_eq, unseen, Option.map_map,
          Option.map_eq_some_iff, List.find?_eq_some_iff_append, Nat.lt_of_not_le due,
          true_and]
        constructor
        · rintro ⟨pin, ⟨seen, front, back, split, first⟩, call⟩
          cases call
          exact ⟨rfl, front, pin, back, split, rfl, seen, by simpa using first⟩
        · rintro ⟨rfl, front, pin, back, split, rfl, seen, first⟩
          exact ⟨pin, ⟨seen, front, back, split, by simpa using first⟩, rfl⟩

section Booted

variable {machine : Machine} {chip : ChipPins}

theorem count_follow (controller : machine.controller = booted chip) (actions : List Action) :
    ((machine.follow actions).controller.signals.count beamCounter).toNat =
      countedSince (Call.along (fun reached call => (call.beamEvent? reached).toList)
        machine.controller (machine.history actions)) % 4294967296 := by
  have initially : (machine.controller.signals.count beamCounter).toNat =
      countedSince [] % 4294967296 := by
    rw [controller]
    rfl
  have sameLayout : machine.controller.layout = layout := by rw [controller]; rfl
  rw [machine.controller_follow]
  exact Call.count_afterAll sameLayout initially _

theorem mem_takeEvents_follow (controller : machine.controller = booted chip)
    (actions : List Action) :
    32 ∈ ((machine.follow actions).controller.tick 1).takeEvents.1 ↔
      Call.InterruptedSince (machine.history actions) := by
  have sameLayout : ((machine.follow actions).controller.tick 1).layout = layout := by
    change (machine.follow actions).controller.layout = layout
    rw [machine.controller_follow, Call.layout_afterAll, controller]
    rfl
  have lowered : machine.controller.signals.flags.getLsbD digitalInputsIndex = false := by
    rw [controller]
    exact BitVec.getLsbD_zero
  rw [mem_takeEvents_digitalInputs sameLayout]
  change (machine.follow actions).controller.signals.flags.getLsbD digitalInputsIndex = true ↔ _
  rw [machine.controller_follow, Call.flagged_afterAll, lowered]
  simp

end Booted

end Machine

/-- What becomes of edges.  Booted with anything applied to its pads, and in any order of
actions, the machine counts on the first beam the interrupts of its port since the last
accepted reset, and reports the digital inputs at a tick exactly if a shown input has
interrupted since the tick before.  A turn runs the interrupt of a shown input exactly if
no request is queued, no tick is due, and the input is the first whose level changed while
the wait lasted. -/
theorem edges_caught (external : List (Pin × Option Bool)) :
    ∃ machine, Machine.boot external = .ok machine ∧
      ∀ actions,
        ((machine.follow actions).controller.signals.count beamCounter).toNat =
            countedSince (Call.along (fun reached call => (call.beamEvent? reached).toList)
              machine.controller (machine.history actions)) % 4294967296 ∧
          (32 ∈ ((machine.follow actions).controller.tick 1).takeEvents.1 ↔
            Call.InterruptedSince (machine.history actions)) ∧
          ∀ port line,
            (machine.follow actions).turnCall? = some (.interrupt port line) ↔
              (machine.follow actions).requests.items = [] ∧
                (machine.follow actions).now < (machine.follow actions).nextTick ∧
                  line = inputLine ∧
                    ∃ front pin back, shownInputs = front ++ pin :: back ∧ pin.port = port ∧
                      machine.Noticed actions pin ∧
                        ∀ other ∈ front, ¬ machine.Noticed actions other := by
  obtain ⟨chip, _, attentive, boots⟩ := Machine.boot_waits external
  refine ⟨_, boots, ?_⟩
  intro actions
  generalize same : ({ controller := booted chip, wait := some .begun } : Machine) = machine
  have controller : machine.controller = booted chip := by rw [← same]
  refine ⟨machine.count_follow controller actions, machine.mem_takeEvents_follow controller actions,
    ?_⟩
  have listening : Attentive (machine.follow actions).controller.pins := by
    rw [machine.controller_follow, controller]
    exact Call.attentive_afterAll attentive _
  have noticed : ∀ pin, (machine.follow actions).sees pin = true ↔
      machine.Noticed actions pin := by
    intro pin
    have unseen : machine.sees pin = false := by
      rw [← same]
      exact EdgeWait.sees_begun pin
    rw [machine.sees_follow, unseen]
    simp
  intro port line
  rw [Machine.turnCall?_eq_interrupt_iff listening]
  simp only [noticed]

/-- The beam is broken while the task waits, and a request is queued before its turn. -/
def brokenBehindRequest : List Action :=
  [.applyExternal beam0 (some false), .submit (.read 39), .registerTurn, .registerTurn]

theorem history_brokenBehindRequest {controller : Controller ChipPins}
    (attentive : Attentive controller.pins) :
    ({ controller, wait := some .begun } : Machine).history brokenBehindRequest =
      [.external beam0 (some false), .serve (.read 39)] := by
  -- The request takes the first turn and with it the wait that saw the edge.
  have served : ({ controller, wait := some .begun } : Machine).follow
      (brokenBehindRequest.take 3) = {
        controller := Call.afterAll controller [.external beam0 (some false), .serve (.read 39)]
        replies := Queue.empty.offer
          (answer ((Call.external beam0 (some false)).after controller) (.read 39)).1 } := rfl
  have listening := Call.attentive_afterAll attentive
    [.external beam0 (some false), .serve (.read 39)]
  generalize Call.afterAll controller [.external beam0 (some false), .serve (.read 39)] = reached
    at served listening
  have idle : (({ controller, wait := some .begun } : Machine).follow
      (brokenBehindRequest.take 3)).turnCall? = none := by
    have quiet : EdgeWait.begun.poll? reached.pins = none := by
      rw [listening.poll?_eq, funext EdgeWait.sees_begun]
      rfl
    rw [served]
    change (EdgeWait.begun.poll? reached.pins).map _ = none
    rw [quiet, Option.map_none]
  have split : brokenBehindRequest = brokenBehindRequest.take 3 ++ [.registerTurn] := rfl
  rw [split, Machine.history, Machine.collect_append]
  simp only [Machine.collect, Machine.call?, idle]
  rfl

/-- The edge behind the request changes the level of the beam, but is neither counted nor
reported. -/
theorem edge_lost_behind_request :
    ∃ machine, Machine.boot [] = .ok machine ∧
      machine.flips beam0 (.applyExternal beam0 (some false)) = true ∧
      (machine.follow brokenBehindRequest).controller.signals.count beamCounter = 0 ∧
      32 ∉ ((machine.follow brokenBehindRequest).controller.tick 1).takeEvents.1 := by
  obtain ⟨chip, board, attentive, boots⟩ := Machine.boot_waits []
  have high : chip.get? beam0 = some (ChipPin.becomeInput {} .up .bothEdges) := by
    have listed : interrupting (pulledUp "POKE0_IR" beam0) ∈ inputs := List.mem_cons_self
    have taken := board.configured _ listed
    rw [Machine.chipWith, List.foldl_nil, ChipPins.get?_reset (input_wired listed)] at taken
    exact taken
  have listening : Attentive (booted chip).pins := attentive
  have calls := history_brokenBehindRequest listening
  refine ⟨_, boots, ?_, ?_, ?_⟩
  · change ((chip.get? beam0).any (·.pad.level) !=
      ((chip.applyExternal beam0 (some false)).get? beam0).any (·.pad.level)) = true
    rw [ChipPins.applyExternal, ChipPins.get?_modify, if_pos rfl, high]
    rfl
  · apply UInt32.toNat_inj.mp
    rw [Machine.count_follow rfl, calls]
    rfl
  · rw [Machine.mem_takeEvents_follow rfl, calls]
    rintro ⟨before, shown, after, _, split, _⟩
    have member : Call.interrupt shown.port inputLine ∈
        [Call.external beam0 (some false), .serve (.read 39)] := by
      rw [split]
      simp
    simp at member

end Instrument.Firmware

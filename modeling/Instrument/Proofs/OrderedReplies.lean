import Instrument.Proofs.TaskCalls

/-!
# Requests in order

In every order of actions the register task serves the accepted requests once each, in
the order they were accepted, and answers each with what the device gives at that moment.
A request served is a read, or a write and then a read, of the controller as the requests
before it have left it.  The queues neither duplicate nor replace: what the engine receives,
followed by what still waits for it, are the replies and reports that found room when they
were sent.
-/

namespace Instrument

/-- The address and the payload of a step that writes. -/
def Operation.write? {β : Type} : Operation β → Option (UInt8 × Bytes)
  | .write address payload => some (address, payload)
  | _ => none

namespace Firmware

open Board NosePoke

namespace Queue

variable {α : Type} {capacity : Nat}

/-- Items that are offered in turn, each with the number of those that wait before it. -/
def offers (queue : Queue α capacity) : List α → List (α × Nat)
  | [] => []
  | item :: rest => (item, queue.size) :: (queue.offer item).offers rest

/-- The items among those offered that find room. -/
def kept (capacity : Nat) (offered : List (α × Nat)) : List α :=
  (offered.filter fun offer => decide (offer.2 < capacity)).map (·.1)

theorem kept_append (front back : List (α × Nat)) :
    kept capacity (front ++ back) = kept capacity front ++ kept capacity back := by
  rw [kept, List.filter_append, List.map_append]
  rfl

theorem kept_sublist (offered : List (α × Nat)) :
    (kept capacity offered).Sublist (offered.map (·.1)) :=
  List.filter_sublist.map _

theorem map_fst_offers (queue : Queue α capacity) (items : List α) :
    (queue.offers items).map (·.1) = items := by
  induction items generalizing queue with
  | nil => rfl
  | cons item rest induction => rw [offers, List.map_cons, induction]

theorem items_foldl_offer (queue : Queue α capacity) (items : List α) :
    (items.foldl (fun queue item => queue.offer item) queue).items =
      queue.items ++ kept capacity (queue.offers items) := by
  induction items generalizing queue with
  | nil => exact (List.append_nil _).symm
  | cons item rest induction =>
      rw [List.foldl_cons, induction, items_offer, offers, kept, kept, List.filter_cons]
      by_cases room : queue.size < capacity
      · rw [if_pos room, if_pos (decide_eq_true room), List.map_cons, List.append_assoc,
          List.singleton_append]
      · rw [if_neg room, if_neg (by simpa using room)]

end Queue

/-- What the device gives for a request: the bytes of the register, after the write if it
is one. -/
def Request.result {β : Type} [PinDriver β] (controller : Controller β) :
    Request → Except RequestError Bytes
  | .read address => (controller.read address).1
  | .write address payload =>
    match controller.write address payload.bytes with
    | (.error reason, _) => .error reason
    | (.ok (), written) => (written.read address).1

/-- The address and the payload of a request to write. -/
def Request.write? : Request → Option (UInt8 × Bytes)
  | .read _ => none
  | .write address payload => some (address, payload.bytes)

section Contents

variable {β : Type} [PinDriver β] {controller : Controller β}

theorem length_le_maxPayload (same : controller.layout = layout) {address : UInt8}
    {bytes : Bytes} (read : (controller.read address).1 = .ok bytes) :
    bytes.length ≤ maxPayload := by
  have fits : ∀ index, (controller.layout.register index).size ≤ maxPayload := by
    rw [same]
    decide
  have ended := controller.read_ends address
  generalize controller.read address = outcome at ended read
  cases ended with
  | invalidAddress => cases read
  | @sampled index =>
      cases read
      have sized := (controller.refresh index).length_stored index
      exact Nat.le_trans (Nat.le_of_eq sized) (fits index)

theorem exists_read {address : UInt8}
    (inside : ∃ index, controller.layout.addressOf index = address) :
    ∃ bytes, (controller.read address).1 = .ok bytes := by
  obtain ⟨index, place⟩ := inside
  rw [← place]
  exact ⟨_, controller.read_addressOf index⟩

theorem map_bytes_readPayload (same : controller.layout = layout) (address : UInt8) :
    (readPayload controller address).1.map (·.bytes) = (controller.read address).1 := by
  have fits : ∀ bytes, (controller.read address).1 = .ok bytes → bytes.length ≤ maxPayload :=
    fun _ read => length_le_maxPayload same read
  rw [readPayload]
  generalize controller.read address = outcome at fits ⊢
  obtain ⟨result, after⟩ := outcome
  cases result with
  | error => rfl
  | ok bytes =>
      simp only [Payload.ofBytes?, dif_pos (fits bytes rfl)]
      rfl

/-- A reply names the address of its request and carries what the device gives. -/
theorem answer_eq (same : controller.layout = layout) (request : Request) :
    (answer controller request).1.address = request.address ∧
      (answer controller request).1.result.map (·.bytes) = request.result controller := by
  cases request with
  | read address => exact ⟨rfl, map_bytes_readPayload same address⟩
  | write address payload =>
      have kept : (controller.write address payload.bytes).2.layout = layout :=
        (controller.layout_step (.write address payload.bytes)).trans same
      rw [answer, Request.result]
      generalize controller.write address payload.bytes = outcome at kept ⊢
      obtain ⟨result, written⟩ := outcome
      cases result with
      | error => exact ⟨rfl, rfl⟩
      | ok => exact ⟨rfl, map_bytes_readPayload kept address⟩

theorem fst_report? (same : controller.layout = layout) {address : UInt8} {bytes : Bytes}
    (read : (controller.read address).1 = .ok bytes) :
    ∃ payload, payload.bytes = bytes ∧
      (report? controller address).1 = some ⟨address, payload⟩ := by
  have carried := map_bytes_readPayload same address
  rw [read] at carried
  rw [report?]
  generalize readPayload controller address = outcome at carried ⊢
  obtain ⟨result, after⟩ := outcome
  cases result with
  | error => cases carried
  | ok payload =>
      cases carried
      exact ⟨payload, rfl, rfl⟩

theorem map_address_reportAll (same : controller.layout = layout) {addresses : List UInt8}
    (inside : ∀ address ∈ addresses, ∃ index, controller.layout.addressOf index = address) :
    (reportAll controller addresses).1.map (·.address) = addresses := by
  induction addresses generalizing controller with
  | nil => rfl
  | cons address rest induction =>
      rw [List.forall_mem_cons] at inside
      obtain ⟨bytes, read⟩ := exists_read inside.1
      obtain ⟨payload, _, reported⟩ := fst_report? same read
      have kept : (report? controller address).2.layout = controller.layout := by
        rw [snd_report?]
        exact controller.layout_step (.read address)
      have later := induction (kept.trans same) (by rw [kept]; exact inside.2)
      rw [reportAll]
      simp only [reported, Option.toList_some, List.singleton_append, List.map_cons, later]

/-- The reports of a tick are those of the registers that are flagged. -/
theorem map_address_onTick (same : controller.layout = layout) :
    (onTick controller).1.map (·.address) = (controller.tick 1).takeEvents.1 := by
  apply map_address_reportAll
  · exact same
  · intro address flagged
    obtain ⟨index, place, _⟩ := (Controller.mem_takeEvents_iff _ address).mp flagged
    exact ⟨index, place⟩

end Contents

namespace Call

def request? : Call → Option Request
  | .serve request => some request
  | _ => none

/-- The answer that a call owes: the address of the request, with its result. -/
def answers (controller : Controller ChipPins) : Call → List (UInt8 × Except RequestError Bytes)
  | .serve request => [(request.address, request.result controller)]
  | _ => []

def events (controller : Controller ChipPins) : Call → List UInt8
  | .tick => (controller.tick 1).takeEvents.1
  | _ => []

/-- Of the steps of a call, only that of a request to write writes. -/
theorem writes_operations (controller : Controller ChipPins) (call : Call) :
    (call.operations controller).filterMap Operation.write? =
      call.request?.toList.filterMap Request.write? := by
  cases call with
  | serve request =>
      cases request with
      | read => rfl
      | write address payload =>
          rw [operations]
          split <;> rfl
  | tick => simp [operations, Operation.write?, request?, List.filterMap_eq_nil_iff]
  | interrupt port line =>
      by_cases shared : line = inputLine
      · subst shared
        cases port <;> rfl
      · have none : (Call.interrupt port line).operations controller = [] := if_neg shared
        rw [none]
        rfl
  | sample conversions =>
      rw [operations]
      split <;> rfl
  | external => rfl

/-- The writes that reach the controller are those requested, each once and in order. -/
theorem writes_along (controller : Controller ChipPins) (calls : List Call) :
    (along operations controller calls).filterMap Operation.write? =
      (calls.filterMap request?).filterMap Request.write? := by
  induction calls generalizing controller with
  | nil => rfl
  | cons call rest induction =>
      have split : (call :: rest).filterMap request? =
          call.request?.toList ++ rest.filterMap request? := by
        rw [List.filterMap_cons]
        cases call.request? <;> rfl
      rw [along, List.filterMap_append, writes_operations, induction, split,
        List.filterMap_append]

end Call

namespace Machine

def accepted (machine : Machine) : Action → List Request
  | .submit request => if machine.requests.size < 4 then [request] else []
  | _ => []

/-- The reply that an action sends, with the number of replies that the engine has not
taken yet. -/
def offeredReplies (machine : Machine) (action : Action) : List (Reply × Nat) :=
  match machine.call? action with
  | some (.serve request) => machine.replies.offers [(answer machine.controller request).1]
  | _ => []

/-- The reports that an action sends, each with the number of reports that the engine has
not taken yet. -/
def offeredReports (machine : Machine) (action : Action) : List (Report × Nat) :=
  match machine.call? action with
  | some .tick => machine.reports.offers (onTick machine.controller).1
  | _ => []

def receivedReplies (machine : Machine) : Action → List Reply
  | .takeReply => machine.replies.items.head?.toList
  | _ => []

def receivedReports (machine : Machine) : Action → List Report
  | .takeReport => machine.reports.items.head?.toList
  | _ => []

/-- What the engine and the register task make of each other in a run. -/
structure InOrder (machine : Machine) (actions : List Action) : Prop where
  /-- Each accepted request is served once and in order, or still waits. -/
  served : machine.collect accepted actions =
    (machine.history actions).filterMap Call.request? ++ (machine.follow actions).requests.items
  /-- The calls in the history are all that happens to the controller. -/
  controller : (machine.follow actions).controller =
    Call.afterAll machine.controller (machine.history actions)
  /-- Those calls are reads, writes and other steps of the controller. -/
  applied : (machine.follow actions).controller = machine.controller.run
    (Call.along Call.operations machine.controller (machine.history actions))
  /-- Each served write reaches the controller once and in order, and no other does. -/
  written :
    (Call.along Call.operations machine.controller (machine.history actions)).filterMap
        Operation.write? =
      ((machine.history actions).filterMap Call.request?).filterMap Request.write?
  /-- Each served request is answered once, with its address and its result. -/
  answered :
    (machine.collect offeredReplies actions).map
        (fun offer => (offer.1.address, offer.1.result.map (·.bytes))) =
      Call.along Call.answers machine.controller (machine.history actions)
  /-- Each flagged register is reported once by the next tick. -/
  reported :
    (machine.collect offeredReports actions).map (·.1.address) =
      Call.along Call.events machine.controller (machine.history actions)
  /-- The engine receives the replies that were sent while less than four waited. -/
  replies :
    machine.collect receivedReplies actions ++ (machine.follow actions).replies.items =
      Queue.kept 4 (machine.collect offeredReplies actions)
  received : (machine.collect receivedReplies actions).Sublist
    ((machine.collect offeredReplies actions).map (·.1))
  /-- The engine receives the reports that were sent while less than eight waited. -/
  reports :
    machine.collect receivedReports actions ++ (machine.follow actions).reports.items =
      Queue.kept 8 (machine.collect offeredReports actions)

/-- What enters and leaves a part of the machine, over a run. -/
theorem collect_conserved {α : Type} {held : Machine → List α}
    {entering leaving : Machine → Action → List α}
    (conserved : ∀ machine action, held machine ++ entering machine action =
      leaving machine action ++ held (machine.after action))
    (machine : Machine) (actions : List Action) :
    held machine ++ machine.collect entering actions =
      machine.collect leaving actions ++ held (machine.follow actions) := by
  induction actions generalizing machine with
  | nil => exact List.append_nil _
  | cons action rest induction =>
      calc held machine ++ (entering machine action ++ (machine.after action).collect entering rest)
        _ = leaving machine action ++
            (held (machine.after action) ++ (machine.after action).collect entering rest) := by
          rw [← List.append_assoc, conserved, List.append_assoc]
        _ = leaving machine action ++ ((machine.after action).collect leaving rest ++
            held ((machine.after action).follow rest)) := by rw [induction]
        _ = machine.collect leaving (action :: rest) ++ held (machine.follow (action :: rest)) :=
          (List.append_assoc _ _ _).symm

theorem collect_map {α γ : Type} (change : List α → List γ) (empty : change [] = [])
    (append : ∀ front back, change (front ++ back) = change front ++ change back)
    (result : Machine → Action → List α) (machine : Machine) (actions : List Action) :
    change (machine.collect result actions) =
      machine.collect (fun reached action => change (result reached action)) actions := by
  induction actions generalizing machine with
  | nil => exact empty
  | cons action rest induction => rw [collect, append, induction, collect]

theorem requests_conserved (machine : Machine) (action : Action) :
    machine.requests.items ++ machine.accepted action =
      (machine.call? action).toList.filterMap Call.request? ++
        (machine.after action).requests.items := by
  have ended := machine.action_ends action
  generalize machine.call? action = call at ended ⊢
  generalize machine.after action = reached at ended ⊢
  cases ended with
  | submitted room joined => simp [accepted, room, joined]
  | full busy => simp [accepted, busy]
  | turned ended =>
      cases ended with
      | request taken => simp [accepted, Queue.items_of_pop? taken, Call.request?]
      | _ => simp [accepted, Call.request?]
  | _ => simp [accepted, Call.request?, Machine.applyExternal, Machine.elapse]

theorem replies_conserved (machine : Machine) (action : Action) :
    machine.replies.items ++ Queue.kept 4 (machine.offeredReplies action) =
      machine.receivedReplies action ++ (machine.after action).replies.items := by
  have ended := machine.action_ends action
  rw [offeredReplies]
  generalize machine.call? action = call at ended ⊢
  generalize machine.after action = reached at ended ⊢
  cases ended with
  | replyTaken taken => simp [receivedReplies, taken, Queue.kept]
  | noReply empty => simp [receivedReplies, empty, Queue.kept]
  | turned ended =>
      cases ended with
      | request => exact (machine.replies.items_foldl_offer [_]).symm
      | _ => exact List.append_nil _
  | _ => exact List.append_nil _

theorem reports_conserved (machine : Machine) (action : Action) :
    machine.reports.items ++ Queue.kept 8 (machine.offeredReports action) =
      machine.receivedReports action ++ (machine.after action).reports.items := by
  have ended := machine.action_ends action
  rw [offeredReports]
  generalize machine.call? action = call at ended ⊢
  generalize machine.after action = reached at ended ⊢
  cases ended with
  | reportTaken taken => simp [receivedReports, taken, Queue.kept]
  | noReport empty => simp [receivedReports, empty, Queue.kept]
  | turned ended =>
      cases ended with
      | tick => exact (machine.reports.items_foldl_offer _).symm
      | _ => exact List.append_nil _
  | _ => exact List.append_nil _

/-- What actions make up by their calls alone, the history makes up. -/
theorem collect_eq_along {α : Type} {result : Machine → Action → List α}
    {owed : Controller ChipPins → Call → List α}
    (agree : ∀ machine action, machine.controller.layout = layout →
      result machine action = Call.along owed machine.controller (machine.call? action).toList)
    {machine : Machine} (same : machine.controller.layout = layout) (actions : List Action) :
    machine.collect result actions =
      Call.along owed machine.controller (machine.history actions) := by
  induction actions generalizing machine with
  | nil => rfl
  | cons action rest induction =>
      have kept : (machine.after action).controller.layout = layout := by
        rw [controller_after, Call.layout_afterAll, same]
      rw [collect, induction kept, agree machine action same, controller_after]
      exact (Call.along_append owed machine.controller _ _).symm

theorem map_offeredReplies {machine : Machine} (same : machine.controller.layout = layout)
    (action : Action) :
    (machine.offeredReplies action).map
        (fun offer => (offer.1.address, offer.1.result.map (·.bytes))) =
      Call.along Call.answers machine.controller (machine.call? action).toList := by
  rw [offeredReplies]
  cases machine.call? action with
  | none => rfl
  | some call =>
      cases call with
      | serve request =>
          have answered := answer_eq same request
          simp [Queue.offers, Call.along, Call.answers, answered]
      | _ => rfl

theorem map_offeredReports {machine : Machine} (same : machine.controller.layout = layout)
    (action : Action) :
    (machine.offeredReports action).map (·.1.address) =
      Call.along Call.events machine.controller (machine.call? action).toList := by
  rw [offeredReports]
  cases machine.call? action with
  | none => rfl
  | some call =>
      cases call with
      | tick =>
          have offered := machine.reports.map_fst_offers (onTick machine.controller).1
          have addressed := congrArg (List.map (·.address)) offered
          rw [List.map_map, map_address_onTick same] at addressed
          exact addressed.trans (List.append_nil _).symm
      | _ => rfl

theorem received_eq_kept {machine : Machine} (unanswered : machine.replies.items = [])
    (actions : List Action) :
    machine.collect receivedReplies actions ++ (machine.follow actions).replies.items =
      Queue.kept 4 (machine.collect offeredReplies actions) := by
  have conserved := collect_conserved replies_conserved machine actions
  rw [unanswered, List.nil_append] at conserved
  rw [← conserved, collect_map (Queue.kept 4) rfl Queue.kept_append]

theorem inOrder_of_empty {machine : Machine} (same : machine.controller.layout = layout)
    (unasked : machine.requests.items = []) (unanswered : machine.replies.items = [])
    (unreported : machine.reports.items = []) (actions : List Action) :
    machine.InOrder actions where
  served := by
    have conserved := collect_conserved requests_conserved machine actions
    rw [unasked, List.nil_append] at conserved
    rw [conserved, history, collect_map (List.filterMap _) rfl (fun _ _ => List.filterMap_append)]
  controller := machine.controller_follow actions
  applied := by rw [controller_follow, Call.afterAll_eq_run]
  written := Call.writes_along _ _
  answered := by
    rw [collect_map (List.map _) rfl (fun _ _ => List.map_append)]
    exact collect_eq_along (fun _ action same => map_offeredReplies same action) same actions
  reported := by
    rw [collect_map (List.map _) rfl (fun _ _ => List.map_append)]
    exact collect_eq_along (fun _ action same => map_offeredReports same action) same actions
  replies := received_eq_kept unanswered actions
  received := by
    have first := List.sublist_append_left (machine.collect receivedReplies actions)
      (machine.follow actions).replies.items
    rw [received_eq_kept unanswered] at first
    exact first.trans (Queue.kept_sublist _)
  reports := by
    have conserved := collect_conserved reports_conserved machine actions
    rw [unreported, List.nil_append] at conserved
    rw [← conserved, collect_map (Queue.kept 8) rfl Queue.kept_append]

end Machine

/-- Booted with anything applied to its pads, the machine serves requests in order in
every run: each accepted request once, with an answer of its own that is lost only if four
others wait, and each flagged register with a report that is lost only if eight others
wait.  To run both tasks until they are idle is to go on with such a run. -/
theorem requests_served_in_order (external : List (Pin × Option Bool)) :
    ∃ machine, Machine.boot external = .ok machine ∧
      (∀ actions, machine.InOrder actions) ∧
        ∀ actions, ∃ turns, (machine.follow actions).run = machine.follow (actions ++ turns) := by
  obtain ⟨chip, _, _, boots⟩ := Machine.boot_waits external
  refine ⟨_, boots, Machine.inOrder_of_empty rfl rfl rfl rfl, ?_⟩
  intro actions
  obtain ⟨turns, idle⟩ := Machine.exists_follow_run (Machine.follow _ actions)
  refine ⟨turns, ?_⟩
  rw [idle, Machine.follow_append]

end Firmware

end Instrument

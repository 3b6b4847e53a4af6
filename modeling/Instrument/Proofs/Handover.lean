import Instrument.Proofs.AnalogFrames
import Instrument.Proofs.OrderedReplies

/-!
# Steps of a handover

The routine of a frame first latches its bytes and then raises the event; a tick first takes
the events and then reads and reports the registers among them, one after the other.  The
routine may interrupt the rest of the program anywhere, so these steps come in any order that
keeps that of the routine and that of the tick.  Where nothing comes between them they make
up the whole routine and the whole tick.
-/

namespace Instrument.Firmware

open NosePoke Controller

/-- Where a tick stands between two of its steps. -/
inductive TickStage where
  | idle
  /-- It has yet to read these registers. -/
  | reading (pending : List UInt8)
  /-- It has yet to report what it read, and then to read these registers. -/
  | reporting (report : Report) (pending : List UInt8)

namespace TickStage

def pending : TickStage → List UInt8
  | .idle => []
  | .reading pending | .reporting _ pending => pending

def held? : TickStage → Option Report
  | .reporting report _ => some report
  | .idle | .reading _ => none

/-- The stage after a read: what was read is reported next, if anything was. -/
def afterRead (report : Option Report) (pending : List UInt8) : TickStage :=
  match report with
  | some report => .reporting report pending
  | none => .reading pending

/-- How many steps a tick may still take. -/
def left : TickStage → Nat
  | .idle => 0
  | .reading pending => 2 * pending.length + 1
  | .reporting _ pending => 2 * pending.length + 2

theorem pending_afterRead (report : Option Report) (pending : List UInt8) :
    (afterRead report pending).pending = pending := by
  cases report <;> rfl

theorem held?_afterRead (report : Option Report) (pending : List UInt8) :
    (afterRead report pending).held? = report := by
  cases report <;> rfl

theorem left_afterRead (report : Option Report) (pending : List UInt8) :
    (afterRead report pending).left ≤ 2 * pending.length + 2 := by
  cases report with
  | none => exact Nat.le_succ _
  | some report => exact Nat.le_refl _

end TickStage

/-- The controller, the routine of the frames and the tick, between two steps. -/
structure Handover (β : Type) where
  controller : Controller β
  /-- The frames to come. -/
  coming : List (Vector Binary32 6)
  /-- The routine has latched a frame and not raised its event yet. -/
  midway : Bool := false
  stage : TickStage := .idle

/-- What can be seen of a step. -/
inductive Moment where
  | latched (frame : Vector Binary32 6)
  | raised
  | drained (flagged : List UInt8)
  | read (address : UInt8) (result : Except RequestError Bytes)
  | reported (report : Report)
  | ended

namespace Moment

def latched? : Moment → Option (Vector Binary32 6)
  | .latched frame => some frame
  | _ => none

def isRaised : Moment → Bool
  | .raised => true
  | _ => false

/-- How many frames have been latched. -/
def latches (past : List Moment) : Nat := (past.filterMap latched?).length

/-- How many frames have been latched and raised. -/
def raises (past : List Moment) : Nat := past.countP isRaised

/-- Whether an event was raised and not taken since. -/
def unreported (past : List Moment) : Bool :=
  past.foldl (fun up moment =>
    match moment with
    | .raised => true
    | .drained _ => false
    | _ => up) false

end Moment

/-- What is seen of a tick that reads a register and reports it. -/
def Report.moments (report : Report) : List Moment :=
  [.read report.address (.ok report.payload.bytes), .reported report]

variable {β : Type} [PinDriver β]

/-- What a step of the rest of the program shows of itself. -/
def observed? (controller : Controller β) : Operation β → Option Moment
  | .read address => some (.read address (controller.read address).1)
  | _ => none

namespace Handover

/-- The next step of the routine, unless no frame is to come: it latches the bytes of the next
frame, or raises the event of the frame that it has latched. -/
def routineStep? (state : Handover β) : Option (Moment × Handover β) :=
  if state.midway then
    some (.raised, { state with
      controller := state.controller.step (.signal (.raise analogIndex))
      midway := false })
  else
    match state.coming with
    | [] => none
    | frame :: rest =>
      some (.latched frame, { state with
        controller := state.controller.step (.signal (.latch analogWindow (frameBytes frame)))
        coming := rest
        midway := true })

/-- The next step of the tick: it takes the events, reads the next register, reports what it
has read, or ends. -/
def tickStep (state : Handover β) : Moment × Handover β :=
  match state.stage with
  | .idle =>
    (.drained (state.controller.tick 1).takeEvents.1, { state with
      controller := (state.controller.tick 1).takeEvents.2
      stage := .reading (state.controller.tick 1).takeEvents.1 })
  | .reading [] => (.ended, { state with stage := .idle })
  | .reading (address :: rest) =>
    (.read address (state.controller.read address).1, { state with
      controller := (report? state.controller address).2
      stage := .afterRead (report? state.controller address).1 rest })
  | .reporting report pending => (.reported report, { state with stage := .reading pending })

/-- So many steps of the tick, with nothing between them. -/
def tickSteps : Nat → Handover β → List Moment × Handover β
  | 0, state => ([], state)
  | count + 1, state =>
    (state.tickStep.1 :: (tickSteps count state.tickStep.2).1,
      (tickSteps count state.tickStep.2).2)

/-- A step of the routine, of the tick, or of the rest of the program, which takes no events
and leaves the window of the frames alone. -/
inductive Step (state : Handover β) : Option Moment → Handover β → Prop where
  | routine {moment : Moment} {next : Handover β} :
      state.routineStep? = some (moment, next) → Step state (some moment) next
  | tick : Step state (some state.tickStep.1) state.tickStep.2
  | other {operation : Operation β} :
      sparesFrame operation = true → operation.lowersFlags = false →
      Step state (observed? state.controller operation)
        { state with controller := state.controller.step operation }

/-- What can be seen on the way from a state to another. -/
inductive Reaches (start : Handover β) : List Moment → Handover β → Prop where
  | refl : Reaches start [] start
  | step {past : List Moment} {seen : Option Moment} {state next : Handover β} :
      Reaches start past state → Step state seen next →
      Reaches start (past ++ seen.toList) next

end Handover

namespace Moment

theorem latches_append (front back : List Moment) :
    latches (front ++ back) = latches front + latches back := by
  rw [latches, List.filterMap_append, List.length_append]
  rfl

theorem raises_append (front back : List Moment) :
    raises (front ++ back) = raises front + raises back := List.countP_append

theorem raises_cons_drained (flagged : List UInt8) (rest : List Moment) :
    raises (.drained flagged :: rest) = raises rest := List.countP_cons_of_neg nofun

theorem unreported_append_singleton (past : List Moment) (moment : Moment) :
    unreported (past ++ [moment]) =
      match moment with
      | .raised => true
      | .drained _ => false
      | _ => unreported past := by
  rw [unreported, List.foldl_append]
  rfl

theorem unreported_of_raised {before gap : List Moment} (kept : ∀ flagged, .drained flagged ∉ gap) :
    unreported (before ++ .raised :: gap) = true := by
  rw [unreported, List.foldl_append, List.foldl_cons]
  induction gap with
  | nil => rfl
  | cons moment rest induction =>
      have later := induction fun flagged member => kept flagged (List.mem_cons_of_mem _ member)
      cases moment with
      | drained flagged => exact absurd List.mem_cons_self (kept flagged)
      | _ => exact later

/-- Once taken, the events stay so until another is raised. -/
theorem unreported_of_drained {before since : List Moment} {flagged : List UInt8}
    (unraised : raises since = 0) : unreported (before ++ .drained flagged :: since) = false := by
  rw [unreported, List.foldl_append, List.foldl_cons]
  induction since with
  | nil => rfl
  | cons moment rest induction =>
      rw [raises, List.countP_cons] at unraised
      have later := induction (Nat.eq_zero_of_add_eq_zero_right unraised)
      cases moment with
      | raised => cases Nat.eq_zero_of_add_eq_zero_left unraised
      | _ => exact later

theorem raises_moments (reports : List Report) :
    raises (reports.flatMap Report.moments ++ [.ended]) = 0 := by
  induction reports with
  | nil => rfl
  | cons report rest induction => exact induction

theorem drained_not_mem_moments (reports : List Report) (flagged : List UInt8) :
    .drained flagged ∉ reports.flatMap Report.moments := by
  simp [Report.moments]

theorem reported_mem_moments {reports : List Report} {report : Report} :
    .reported report ∈ reports.flatMap Report.moments ↔ report ∈ reports := by
  simp [Report.moments]

end Moment

open Moment

namespace Handover

theorem routineStep?_cases {state next : Handover β} {moment : Moment}
    (found : state.routineStep? = some (moment, next)) :
    (∃ frame rest, state.midway = false ∧ state.coming = frame :: rest ∧
        moment = .latched frame ∧ next = { state with
          controller := state.controller.step (.signal (.latch analogWindow (frameBytes frame)))
          coming := rest
          midway := true }) ∨
      (state.midway = true ∧ moment = .raised ∧ next = { state with
          controller := state.controller.step (.signal (.raise analogIndex))
          midway := false }) := by
  obtain ⟨controller, coming, midway, stage⟩ := state
  cases midway with
  | true =>
      cases found
      exact .inr ⟨rfl, rfl, rfl⟩
  | false =>
      cases coming with
      | nil => cases found
      | cons frame rest =>
          cases found
          exact .inl ⟨frame, rest, rfl, rfl, rfl, rfl⟩

theorem Reaches.tickSteps {start state : Handover β} {past : List Moment}
    (reaches : Reaches start past state) (count : Nat) :
    Reaches start (past ++ (state.tickSteps count).1) (state.tickSteps count).2 := by
  induction count generalizing past state with
  | zero =>
      rw [Handover.tickSteps, List.append_nil]
      exact reaches
  | succ count induction =>
      have later := induction (reaches.step .tick)
      rw [List.append_assoc] at later
      exact later

theorem raises_tickSteps (state : Handover β) (count : Nat) :
    raises (state.tickSteps count).1 = 0 := by
  induction count generalizing state with
  | zero => rfl
  | succ count induction =>
      have unraised : state.tickStep.1.isRaised = false := by
        rw [tickStep]
        split <;> rfl
      rw [tickSteps, raises, List.countP_cons, unraised]
      exact induction state.tickStep.2

/-- A step of a tick that lasts takes no events, and brings it closer to its end. -/
theorem tickStep_lasting {state : Handover β} (lasts : state.stage ≠ .idle) :
    (∀ flagged, state.tickStep.1 ≠ .drained flagged) ∧
      state.tickStep.2.stage.left < state.stage.left := by
  obtain ⟨controller, coming, midway, stage⟩ := state
  cases stage with
  | idle => exact absurd rfl lasts
  | reading pending =>
      cases pending with
      | nil => exact ⟨nofun, Nat.zero_lt_one⟩
      | cons address rest =>
          refine ⟨nofun, ?_⟩
          exact Nat.lt_succ_of_le (TickStage.left_afterRead _ rest)
  | reporting report pending => exact ⟨nofun, Nat.lt_succ_self _⟩

/-- A tick that lasts ends by its own steps. -/
theorem tick_ends (state : Handover β) :
    ∃ count, (state.tickSteps count).2.stage = .idle ∧
      ∀ other, .drained other ∉ (state.tickSteps count).1 := by
  by_cases idle : state.stage = .idle
  · exact ⟨0, idle, fun _ => List.not_mem_nil⟩
  · obtain ⟨untaken, closer⟩ := tickStep_lasting idle
    obtain ⟨count, ends, kept⟩ := tick_ends state.tickStep.2
    refine ⟨count + 1, ends, ?_⟩
    intro other
    rw [tickSteps, List.mem_cons, not_or]
    exact ⟨(untaken other).symm, kept other⟩
termination_by state.stage.left

/-- A tick that has taken the events reads and reports each register in turn. -/
theorem tickSteps_reading {controller : Controller β} (same : controller.layout = NosePoke.layout)
    {addresses : List UInt8}
    (inside : ∀ address ∈ addresses, ∃ index, controller.layout.addressOf index = address)
    (coming : List (Vector Binary32 6)) (midway : Bool) :
    tickSteps (2 * addresses.length + 1) ⟨controller, coming, midway, .reading addresses⟩ =
      ((reportAll controller addresses).1.flatMap Report.moments ++ [.ended],
        ⟨(reportAll controller addresses).2, coming, midway, .idle⟩) := by
  induction addresses generalizing controller with
  | nil => rfl
  | cons address rest induction =>
      rw [List.forall_mem_cons] at inside
      obtain ⟨bytes, read⟩ := exists_read inside.1
      obtain ⟨payload, rfl, reported⟩ := fst_report? same read
      have kept : (report? controller address).2.layout = controller.layout := by
        rw [snd_report?]
        exact controller.layout_step (.read address)
      have later := induction (kept.trans same) (by rw [kept]; exact inside.2)
      have reads : tickStep ⟨controller, coming, midway, .reading (address :: rest)⟩ =
          (.read address (.ok payload.bytes), ⟨(report? controller address).2, coming, midway,
            .reporting ⟨address, payload⟩ rest⟩) := by
        simp only [tickStep, read, reported, TickStage.afterRead]
      have reports : tickStep ⟨(report? controller address).2, coming, midway,
          .reporting ⟨address, payload⟩ rest⟩ =
          (.reported ⟨address, payload⟩,
            ⟨(report? controller address).2, coming, midway, .reading rest⟩) := rfl
      rw [List.length_cons, Nat.mul_succ, tickSteps, tickSteps, reads, reports, later, reportAll]
      simp only [reported, Option.toList_some]
      rfl

/-- Uninterrupted, the steps make up the routine of a frame and the work of a tick. -/
structure Uninterrupted (state : Handover β) : Prop where
  routine : ∀ frame rest, state.midway = false → state.coming = frame :: rest →
    ∃ latched, state.routineStep? = some (.latched frame, latched) ∧
      latched.routineStep? = some (.raised, { state with
        controller := analogFrame state.controller frame, coming := rest })
  /-- The tick takes the events, reads and reports each register among them, and ends. -/
  tick : state.stage = .idle →
    state.tickSteps (2 * (onTick state.controller).1.length + 2) =
      (.drained ((onTick state.controller).1.map (·.address)) ::
          ((onTick state.controller).1.flatMap Report.moments ++ [.ended]),
        { state with controller := (onTick state.controller).2 })

theorem uninterrupted {state : Handover β} (same : state.controller.layout = NosePoke.layout) :
    state.Uninterrupted := by
  obtain ⟨controller, coming, midway, stage⟩ := state
  constructor
  · intro frame rest idle next
    cases idle
    cases next
    refine ⟨_, rfl, ?_⟩
    rw [analogFrame, onAnalogFrame_eq]
    rfl
  · intro idle
    cases idle
    have inside : ∀ address ∈ (controller.tick 1).takeEvents.1,
        ∃ index, (controller.tick 1).takeEvents.2.layout.addressOf index = address := by
      intro address flagged
      obtain ⟨index, place, _⟩ := (mem_takeEvents_iff _ address).mp flagged
      exact ⟨index, place⟩
    have kept : (controller.tick 1).takeEvents.2.layout = NosePoke.layout := same
    have reads := tickSteps_reading kept inside coming midway
    have addressed : (onTick controller).1.map (·.address) = (controller.tick 1).takeEvents.1 :=
      map_address_onTick same
    have count := congrArg List.length addressed
    rw [List.length_map] at count
    rw [addressed, count]
    exact congrArg (fun outcome => (.drained (controller.tick 1).takeEvents.1 :: outcome.1,
      outcome.2)) reads

theorem Reaches.wholeTick {start state : Handover β} {past : List Moment}
    (reaches : Reaches start past state) (whole : state.Uninterrupted)
    (idle : state.stage = .idle) :
    Reaches start
      (past ++ .drained ((onTick state.controller).1.map (·.address)) ::
        ((onTick state.controller).1.flatMap Report.moments ++ [.ended]))
      { state with controller := (onTick state.controller).2 } := by
  have further := reaches.tickSteps (2 * (onTick state.controller).1.length + 2)
  rw [whole.tick idle] at further
  exact further

end Handover

end Instrument.Firmware

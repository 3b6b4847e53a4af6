import Instrument.Proofs.Handover

/-!
# What a handover keeps

Every step of a handover keeps the state in line with what was seen before it.  The latch holds
the frame that was latched last, and the flag is up while an event is not taken.  A tick that
has found the event of a frame has yet to read the register, has yet to report it, or has
reported that frame or a later one; so no frame that was raised is lost.
-/

namespace Instrument.Firmware

open NosePoke Controller

/-- The bytes of the last of so many frames, or zeros before the first. -/
def shownFrame (frames : List (Vector Binary32 6)) (count : Nat) : Bytes :=
  ((frames.take count).getLast?.map frameBytes).getD (Bytes.zeros 24)

variable {β : Type} [PinDriver β]

open Moment

/-- A list with one more item splits at an item there, or at the item it ends in. -/
theorem append_singleton_split {α : Type} {past before after : List α} {last item : α}
    (split : past ++ [last] = before ++ item :: after) :
    (past = before ∧ last = item ∧ after = []) ∨
      ∃ rest, after = rest ++ [last] ∧ past = before ++ item :: rest := by
  rcases List.eq_nil_or_concat after with rfl | ⟨rest, final, rfl⟩
  · obtain ⟨same, ends⟩ := List.append_inj' split rfl
    cases ends
    exact .inl ⟨same, rfl, rfl⟩
  · rw [List.concat_eq_append, ← List.cons_append, ← List.append_assoc] at split
    obtain ⟨same, ends⟩ := List.append_inj' split rfl
    cases ends
    exact .inr ⟨rest, List.concat_eq_append .., same⟩

namespace Handover

variable {frames : List (Vector Binary32 6)} {past : List Moment} {state : Handover β}

/-- A report of a frame that is not older than the last of so many. -/
def FreshReport (frames : List (Vector Binary32 6)) (raised : Nat) (report : Report) : Prop :=
  ∃ count, raised ≤ count ∧ count ≤ frames.length ∧
    report.address = analogAddress ∧ report.payload.bytes = shownFrame frames count

/-- What becomes of an event that a tick has found: the frame has yet to be read, has yet to be
reported, or has been reported. -/
def Owed (frames : List (Vector Binary32 6)) (raised : Nat) (since : List Moment)
    (stage : TickStage) : Prop :=
  analogAddress ∈ stage.pending ∨
    ∃ report, FreshReport frames raised report ∧
      (stage.held? = some report ∨ .reported report ∈ since)

/-- What becomes of the frames that were raised: the event of the last is still to be taken, or
the tick that took it accounts for the frame. -/
def Accounted (frames : List (Vector Binary32 6)) (past : List Moment) (stage : TickStage) :
    Prop :=
  raises past = 0 ∨ unreported past = true ∨ Owed frames (raises past) past stage

/-- How the controller follows from what was seen. -/
structure Current (frames : List (Vector Binary32 6)) (past : List Moment)
    (controller : Controller β) : Prop where
  layout : controller.layout = NosePoke.layout
  shown : analogBytes controller.signals = shownFrame frames (latches past)
  flagged : unreported past = true → controller.signals.flags.getLsbD analogIndex = true

/-- How the state follows from what was seen. -/
structure Follows (frames : List (Vector Binary32 6)) (past : List Moment)
    (state : Handover β) : Prop where
  current : Current frames past state.controller
  coming : past.filterMap latched? ++ state.coming = frames
  midway : latches past = raises past + state.midway.toNat
  owed : state.stage ≠ .idle → ∀ before flagged since,
    past = before ++ .drained flagged :: since → (∀ other, .drained other ∉ since) →
      analogAddress ∈ flagged → Owed frames (raises before) since state.stage
  accounted : Accounted frames past state.stage

/-- What a moment shows, by what was seen before it. -/
def Allowed (frames : List (Vector Binary32 6)) (past : List Moment) : Moment → Prop
  | .drained flagged => unreported past = true → analogAddress ∈ flagged
  | .read address result =>
    raises past ≤ latches past ∧ latches past ≤ frames.length ∧
      (address = analogAddress → result = .ok (shownFrame frames (latches past)))
  | .ended => ∀ before flagged since, past = before ++ .drained flagged :: since →
    (∀ other, .drained other ∉ since) → analogAddress ∈ flagged →
      ∃ report, FreshReport frames (raises before) report ∧ .reported report ∈ since
  | .latched _ | .raised | .reported _ => True

section

variable {controller : Controller β}

theorem Current.step (current : Current frames past controller) {operation : Operation β}
    (spares : sparesFrame operation = true) (untaken : operation.lowersFlags = false) :
    Current frames past (controller.step operation) where
  layout := (controller.layout_step operation).trans current.layout
  shown := (analogBytes_step spares).trans current.shown
  flagged := by
    intro up
    rw [flags_step, Operation.getLsbD_flagsAfter]
    exact .inl ⟨untaken, current.flagged up⟩

omit [PinDriver β] in
theorem Current.append (current : Current frames past controller) {moments : List Moment}
    (unlatched : latches moments = 0)
    (unraised : unreported (past ++ moments) = unreported past) :
    Current frames (past ++ moments) controller where
  layout := current.layout
  shown := by
    rw [latches_append, unlatched, Nat.add_zero]
    exact current.shown
  flagged := by
    rw [unraised]
    exact current.flagged

theorem Current.latch (current : Current frames past controller)
    {frame : Vector Binary32 6} {rest : List (Vector Binary32 6)}
    (coming : past.filterMap latched? ++ frame :: rest = frames) :
    Current frames (past ++ [.latched frame])
      (controller.step (.signal (.latch analogWindow (frameBytes frame)))) where
  layout := current.layout
  shown := by
    have split : (past.filterMap latched? ++ [frame]) ++ rest = frames := by
      rw [← coming, List.append_assoc, List.singleton_append]
    have taken : frames.take (latches (past ++ [.latched frame])) =
        past.filterMap latched? ++ [frame] := by
      rw [← split]
      apply List.take_left'
      rw [latches, List.filterMap_append]
      rfl
    rw [shownFrame, taken, List.getLast?_concat]
    exact analogBytes_latch controller.signals frame
  flagged := by
    intro up
    rw [unreported_append_singleton] at up
    have kept := controller.signals.flags_latch analogWindow (frameBytes frame)
    change (controller.signals.latch _ _).flags.getLsbD analogIndex = true
    rw [kept]
    exact current.flagged up

theorem Current.raise (current : Current frames past controller) :
    Current frames (past ++ [.raised]) (controller.step (.signal (.raise analogIndex))) where
  layout := current.layout
  shown := by
    have spares : sparesFrame (.signal (.raise analogIndex) : Operation β) = true := rfl
    rw [analogBytes_step spares, current.shown, latches_append]
    rfl
  flagged := by
    intro _
    rw [flags_step, Operation.getLsbD_flagsAfter]
    exact .inr ⟨rfl, by decide⟩

theorem Current.drain (current : Current frames past controller) (flagged : List UInt8) :
    Current frames (past ++ [.drained flagged]) (controller.tick 1).takeEvents.2 where
  layout := current.layout
  shown := by
    rw [latches_append]
    exact current.shown
  flagged := by
    intro up
    rw [unreported_append_singleton] at up
    cases up

end

section

variable {raised : Nat} {since : List Moment} {stage : TickStage}

theorem Owed.append (owed : Owed frames raised since stage) (moments : List Moment) :
    Owed frames raised (since ++ moments) stage := by
  rcases owed with unread | ⟨report, fresh, place⟩
  · exact .inl unread
  · exact .inr ⟨report, fresh, place.imp_right (List.mem_append_left _)⟩

theorem Owed.read {address : UInt8} {rest : List UInt8} {read : Option Report}
    (owed : Owed frames raised since (.reading (address :: rest)))
    (gives : address = analogAddress →
      ∃ report, FreshReport frames raised report ∧ read = some report) :
    Owed frames raised since (.afterRead read rest) := by
  rcases owed with unread | ⟨report, fresh, held | reported⟩
  · rcases List.mem_cons.mp unread with same | later
    · obtain ⟨report, fresh, carried⟩ := gives same.symm
      refine .inr ⟨report, fresh, .inl ?_⟩
      rw [TickStage.held?_afterRead, carried]
    · left
      rw [TickStage.pending_afterRead]
      exact later
  · cases held
  · exact .inr ⟨report, fresh, .inr reported⟩

theorem Owed.report {report : Report} {pending : List UInt8}
    (owed : Owed frames raised since (.reporting report pending)) :
    Owed frames raised (since ++ [.reported report]) (.reading pending) := by
  rcases owed with unread | ⟨fresher, fresh, held | reported⟩
  · exact .inl unread
  · cases held
    exact .inr ⟨report, fresh, .inr (List.mem_append_right _ List.mem_cons_self)⟩
  · exact .inr ⟨fresher, fresh, .inr (List.mem_append_left _ reported)⟩

/-- Where nothing is left to be read or reported, what was owed has been reported. -/
theorem Owed.reported (owed : Owed frames raised since stage) (read : stage.pending = [])
    (unheld : stage.held? = none) :
    ∃ report, FreshReport frames raised report ∧ .reported report ∈ since := by
  rcases owed with unread | ⟨report, fresh, held | reported⟩
  · rw [read] at unread
    cases unread
  · rw [unheld] at held
    cases held
  · exact ⟨report, fresh, reported⟩

theorem Accounted.append (accounted : Accounted frames past stage) {moment : Moment}
    (unraised : moment.isRaised = false) (undrained : ∀ flagged, moment ≠ .drained flagged)
    {next : TickStage}
    (owes : Owed frames (raises past) past stage →
      Owed frames (raises past) (past ++ [moment]) next) :
    Accounted frames (past ++ [moment]) next := by
  have still : raises (past ++ [moment]) = raises past := by
    rw [raises_append, raises, raises, List.countP_singleton, unraised]
    rfl
  rw [Accounted, still]
  rcases accounted with none | up | owed
  · exact .inl none
  · refine .inr (.inl ?_)
    rw [unreported_append_singleton]
    cases moment with
    | raised => cases unraised
    | drained flagged => exact absurd rfl (undrained flagged)
    | _ => exact up
  · exact .inr (.inr (owes owed))

end

omit [PinDriver β] in
theorem Follows.latches_le (follows : Follows frames past state) :
    latches past ≤ frames.length := by
  rw [← follows.coming, List.length_append]
  exact Nat.le_add_right _ _

omit [PinDriver β] in
theorem Follows.raises_le (follows : Follows frames past state) :
    raises past ≤ latches past := by
  rw [follows.midway]
  exact Nat.le_add_right _ _

omit [PinDriver β] in
theorem Follows.coming_append (follows : Follows frames past state) {moment : Moment}
    (unlatched : moment.latched? = none) :
    (past ++ [moment]).filterMap latched? ++ state.coming = frames := by
  rw [List.filterMap_append, List.filterMap_cons_none unlatched, List.filterMap_nil,
    List.append_nil]
  exact follows.coming

omit [PinDriver β] in
theorem Follows.midway_append (follows : Follows frames past state) {moment : Moment}
    (unlatched : moment.latched? = none) (unraised : moment.isRaised = false) :
    latches (past ++ [moment]) = raises (past ++ [moment]) + state.midway.toNat := by
  have still : latches [moment] = 0 := by
    rw [latches, List.filterMap_cons_none unlatched]
    rfl
  have unmoved : raises [moment] = 0 := by
    rw [raises, List.countP_singleton, unraised]
    rfl
  rw [latches_append, raises_append, still, unmoved]
  exact follows.midway

theorem Follows.read (follows : Follows frames past state) (address : UInt8) :
    Allowed frames past (.read address (state.controller.read address).1) := by
  refine ⟨follows.raises_le, follows.latches_le, ?_⟩
  intro same
  rw [same, read_analog follows.current.layout, follows.current.shown]

omit [PinDriver β] in
/-- While a tick lasts, what it owes is what it owed before another moment. -/
theorem Follows.owed_before (follows : Follows frames past state) {moment : Moment}
    (undrained : ∀ flagged, moment ≠ .drained flagged) (lasts : state.stage ≠ .idle)
    {before since : List Moment} {flagged : List UInt8}
    (split : past ++ [moment] = before ++ .drained flagged :: since)
    (kept : ∀ other, .drained other ∉ since) (found : analogAddress ∈ flagged) :
    ∃ rest, since = rest ++ [moment] ∧ raises before ≤ raises past ∧
      Owed frames (raises before) rest state.stage := by
  rcases append_singleton_split split with ⟨_, same, _⟩ | ⟨rest, same, split⟩
  · exact absurd same (undrained flagged)
  · refine ⟨rest, same, ?_, follows.owed lasts _ _ _ split ?_ found⟩
    · rw [split, raises_append]
      exact Nat.le_add_right _ _
    · intro other member
      apply kept other
      rw [same]
      exact List.mem_append_left _ member

omit [PinDriver β] in
theorem Follows.owed_outside (follows : Follows frames past state) {moment : Moment}
    (undrained : ∀ flagged, moment ≠ .drained flagged) (lasts : state.stage ≠ .idle)
    {before since : List Moment} {flagged : List UInt8}
    (split : past ++ [moment] = before ++ .drained flagged :: since)
    (kept : ∀ other, .drained other ∉ since) (found : analogAddress ∈ flagged) :
    Owed frames (raises before) since state.stage := by
  obtain ⟨rest, rfl, _, owed⟩ := follows.owed_before undrained lasts split kept found
  exact owed.append [moment]

theorem Follows.latch (follows : Follows frames past state) (idle : state.midway = false)
    {frame : Vector Binary32 6} {rest : List (Vector Binary32 6)}
    (next : state.coming = frame :: rest) :
    Follows frames (past ++ [.latched frame]) { state with
      controller := state.controller.step (.signal (.latch analogWindow (frameBytes frame)))
      coming := rest
      midway := true } where
  current := by
    apply follows.current.latch
    rw [← next]
    exact follows.coming
  coming := by
    rw [List.filterMap_append, List.append_assoc, ← follows.coming, next]
    rfl
  midway := by
    have before := follows.midway
    rw [idle] at before
    rw [latches_append, raises_append, before]
    rfl
  owed lasts _ _ _ := follows.owed_outside (by nofun) lasts
  accounted := follows.accounted.append rfl (by nofun) fun owed => owed.append _

theorem Follows.raise (follows : Follows frames past state) (latched : state.midway = true) :
    Follows frames (past ++ [.raised]) { state with
      controller := state.controller.step (.signal (.raise analogIndex))
      midway := false } where
  current := follows.current.raise
  coming := follows.coming_append rfl
  midway := by
    have before := follows.midway
    rw [latched] at before
    rw [latches_append, raises_append, before]
    rfl
  owed lasts _ _ _ := follows.owed_outside (by nofun) lasts
  accounted := .inr (.inl (unreported_append_singleton _ _))

/-- The events that a tick takes name the register of the frames, if it was raised. -/
theorem Follows.found (follows : Follows frames past state) (up : unreported past = true) :
    analogAddress ∈ (state.controller.tick 1).takeEvents.1 := by
  have same : (state.controller.tick 1).layout = NosePoke.layout := follows.current.layout
  exact (mem_takeEvents_analog same).mpr (follows.current.flagged up)

theorem Follows.drain (follows : Follows frames past state) (idle : state.stage = .idle) :
    Follows frames (past ++ [.drained (state.controller.tick 1).takeEvents.1]) { state with
      controller := (state.controller.tick 1).takeEvents.2
      stage := .reading (state.controller.tick 1).takeEvents.1 } where
  current := follows.current.drain _
  coming := follows.coming_append rfl
  midway := follows.midway_append rfl rfl
  owed := by
    intro _ before flagged since split kept found
    rcases append_singleton_split split with ⟨_, same, _⟩ | ⟨rest, same, _⟩
    · cases same
      exact .inl found
    · refine absurd ?_ (kept (state.controller.tick 1).takeEvents.1)
      rw [same]
      exact List.mem_append_right _ List.mem_cons_self
  accounted := by
    have still : raises (past ++ [.drained (state.controller.tick 1).takeEvents.1]) =
        raises past := raises_append _ _
    rw [Accounted, still]
    -- An event that is up is taken over by this tick; otherwise an earlier tick has settled it.
    rcases follows.accounted with none | up | owed
    · exact .inl none
    · exact .inr (.inr (.inl (follows.found up)))
    · rw [idle] at owed
      obtain ⟨report, fresh, reported⟩ := owed.reported rfl rfl
      exact .inr (.inr (.inr ⟨report, fresh, .inr (List.mem_append_left _ reported)⟩))

theorem Follows.readNext (follows : Follows frames past state) {address : UInt8}
    {rest : List UInt8} (next : state.stage = .reading (address :: rest)) :
    Follows frames (past ++ [.read address (state.controller.read address).1]) { state with
      controller := (report? state.controller address).2
      stage := .afterRead (report? state.controller address).1 rest } := by
  -- What has been raised has been latched, and so it is read.
  have gives : ∀ raised ≤ raises past, address = analogAddress →
      ∃ report, FreshReport frames raised report ∧
        (report? state.controller address).1 = some report := by
    intro raised before same
    have shown := (follows.read address).2.2 same
    obtain ⟨payload, bytes, carried⟩ := fst_report? follows.current.layout shown
    exact ⟨⟨address, payload⟩, ⟨latches past, Nat.le_trans before follows.raises_le,
      follows.latches_le, same, bytes⟩, carried⟩
  constructor
  case current =>
    have spares : sparesFrame (.read address : Operation β) = true := rfl
    rw [snd_report?]
    exact (follows.current.step spares rfl).append rfl (unreported_append_singleton _ _)
  case coming => exact follows.coming_append rfl
  case midway => exact follows.midway_append rfl rfl
  case owed =>
    intro _ before flagged since split kept found
    have lasts : state.stage ≠ .idle := by
      rw [next]
      exact nofun
    obtain ⟨earlier, rfl, raised, owed⟩ := follows.owed_before (by nofun) lasts split kept found
    rw [next] at owed
    exact (owed.read (gives _ raised)).append _
  case accounted =>
    apply follows.accounted.append rfl (by nofun)
    intro owed
    rw [next] at owed
    exact (owed.read (gives _ (Nat.le_refl _))).append _

omit [PinDriver β] in
theorem Follows.report (follows : Follows frames past state) {report : Report}
    {pending : List UInt8} (holds : state.stage = .reporting report pending) :
    Follows frames (past ++ [.reported report]) { state with stage := .reading pending } where
  current := follows.current.append rfl (unreported_append_singleton _ _)
  coming := follows.coming_append rfl
  midway := follows.midway_append rfl rfl
  owed := by
    intro _ before flagged since split kept found
    have lasts : state.stage ≠ .idle := by
      rw [holds]
      exact nofun
    obtain ⟨earlier, rfl, _, owed⟩ := follows.owed_before (by nofun) lasts split kept found
    rw [holds] at owed
    exact owed.report
  accounted := by
    apply follows.accounted.append rfl (by nofun)
    intro owed
    rw [holds] at owed
    exact owed.report

omit [PinDriver β] in
theorem Follows.finish (follows : Follows frames past state) (done : state.stage = .reading []) :
    Follows frames (past ++ [.ended]) { state with stage := .idle } where
  current := follows.current.append rfl (unreported_append_singleton _ _)
  coming := follows.coming_append rfl
  midway := follows.midway_append rfl rfl
  owed lasts := absurd rfl lasts
  accounted := by
    apply follows.accounted.append rfl (by nofun)
    intro owed
    rw [done] at owed
    exact owed.append _

theorem Follows.other (follows : Follows frames past state) {operation : Operation β}
    (spares : sparesFrame operation = true) (untaken : operation.lowersFlags = false) :
    Follows frames (past ++ (observed? state.controller operation).toList)
      { state with controller := state.controller.step operation } := by
  have unobserved : Follows frames (past ++ [])
      { state with controller := state.controller.step operation } := by
    rw [List.append_nil]
    exact ⟨follows.current.step spares untaken, follows.coming, follows.midway, follows.owed,
      follows.accounted⟩
  cases operation with
  | read address =>
      constructor
      · exact (follows.current.step spares rfl).append rfl (unreported_append_singleton _ _)
      · exact follows.coming_append rfl
      · exact follows.midway_append rfl rfl
      · exact fun lasts _ _ _ => follows.owed_outside (by nofun) lasts
      · exact follows.accounted.append rfl (by nofun) fun owed => owed.append _
  | write | tick | takeEvents | signal | pins => exact unobserved

theorem Follows.tickStep (follows : Follows frames past state) :
    Follows frames (past ++ [state.tickStep.1]) state.tickStep.2 := by
  obtain ⟨controller, coming, midway, stage⟩ := state
  cases stage with
  | idle => exact follows.drain rfl
  | reading pending =>
      cases pending with
      | nil => exact follows.finish rfl
      | cons address rest => exact follows.readNext rfl
  | reporting report pending => exact follows.report rfl

theorem Follows.step (follows : Follows frames past state) {seen : Option Moment}
    {next : Handover β} (step : Step state seen next) :
    Follows frames (past ++ seen.toList) next := by
  cases step with
  | routine found =>
      rcases routineStep?_cases found with
        ⟨frame, rest, idle, coming, rfl, rfl⟩ | ⟨latched, rfl, rfl⟩
      · exact follows.latch idle coming
      · exact follows.raise latched
  | tick => exact follows.tickStep
  | other spares untaken => exact follows.other spares untaken

/-- A tick ends after the report that it owes. -/
theorem Follows.allowed_tickStep (follows : Follows frames past state) :
    Allowed frames past state.tickStep.1 := by
  obtain ⟨controller, coming, midway, stage⟩ := state
  cases stage with
  | idle => exact follows.found
  | reading pending =>
      cases pending with
      | nil =>
          intro before flagged since split kept found
          exact (follows.owed (by nofun) _ _ _ split kept found).reported rfl rfl
      | cons address rest => exact follows.read address
  | reporting report pending => exact trivial

/-- A step shows only what is allowed by what was seen before. -/
theorem Follows.allowed (follows : Follows frames past state) {moment : Moment}
    {next : Handover β} {seen : Option Moment} (step : Step state seen next)
    (shows : seen = some moment) : Allowed frames past moment := by
  cases step with
  | routine found =>
      cases shows
      rcases routineStep?_cases found with ⟨_, _, _, _, rfl, _⟩ | ⟨_, rfl, _⟩
      · exact trivial
      · exact trivial
  | tick =>
      cases shows
      exact follows.allowed_tickStep
  | @other operation =>
      cases operation with
      | read address =>
          cases shows
          exact follows.read address
      | write | tick | takeEvents | signal | pins => cases shows

theorem Reaches.follows {start : Handover β} (reaches : Reaches start past state)
    (initially : Follows frames [] start) : Follows frames past state := by
  induction reaches with
  | refl => exact initially
  | step _ step induction => exact induction.step step

theorem Reaches.allowed {start : Handover β} (reaches : Reaches start past state)
    (initially : Follows frames [] start) {before after : List Moment} {moment : Moment}
    (split : past = before ++ moment :: after) : Allowed frames before moment := by
  induction reaches generalizing after with
  | refl => simp at split
  | @step past seen state next reached step induction =>
      cases seen with
      | none =>
          rw [Option.toList_none, List.append_nil] at split
          exact induction split
      | some last =>
          rcases append_singleton_split split with ⟨rfl, rfl, _⟩ | ⟨rest, _, earlier⟩
          · exact (reached.follows initially).allowed step rfl
          · exact induction earlier

omit [PinDriver β] in
/-- With no event to be taken and no tick that lasts, the last frame raised, or a later one, has
been reported. -/
theorem Follows.reported (follows : Follows frames past state) (idle : state.stage = .idle)
    (taken : unreported past = false) (raised : raises past ≠ 0) :
    ∃ report, FreshReport frames (raises past) report ∧ .reported report ∈ past := by
  rcases follows.accounted with none | up | owed
  · exact absurd none raised
  · rw [taken] at up
    cases up
  · rw [idle] at owed
    exact owed.reported rfl rfl

end Handover

end Instrument.Firmware

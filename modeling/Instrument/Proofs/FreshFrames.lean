import Instrument.Proofs.HandoverInvariant

/-!
# Fresh frames

As the routine of a frame raises after it latches, and a tick reads after it takes the
events, a tick that finds an event never reads an older frame than the one the event was
raised for, and no frame is left unreported.
-/

namespace Instrument.Firmware

open NosePoke Controller Moment

variable {β : Type} [PinDriver β]

namespace Handover

variable {frames : List (Vector Binary32 6)} {past : List Moment} {state : Handover β}

/-- The tick that lasts, if one does, ends by its own steps, and by then or by one whole tick
more the last frame is reported. -/
def ReportsLast (frames : List (Vector Binary32 6)) (moments : List Moment)
    (state : Handover β) : Prop :=
  ∃ count, (state.tickSteps count).2.stage = .idle ∧
    (∀ other, .drained other ∉ (state.tickSteps count).1) ∧
      ∃ report, report.address = analogAddress ∧
        report.payload.bytes = shownFrame frames frames.length ∧
          (.reported report ∈ moments ++ (state.tickSteps count).1 ∨
            report ∈ (onTick (state.tickSteps count).2.controller).1)

theorem Reaches.reportsLast {start : Handover β} (reaches : Reaches start past state)
    (initially : Follows frames [] start) (framed : frames ≠ [])
    (last : raises past = frames.length) : ReportsLast frames past state := by
  obtain ⟨count, idle, kept⟩ := tick_ends state
  have ended := reaches.tickSteps count
  -- After one whole tick more no event is left to be taken, and nothing to be read or reported.
  have further := ended.wholeTick
    (uninterrupted (ended.follows initially).current.layout) idle
  have unraised := raises_moments (onTick (state.tickSteps count).2.controller).1
  have follows := further.follows initially
  have reported := follows.reported idle (unreported_of_drained unraised)
  rw [raises_append, raises_append, raises_tickSteps, last, raises_cons_drained, unraised]
    at reported
  obtain ⟨report, ⟨shown, least, most, address, bytes⟩, sent⟩ :=
    reported fun none => framed (List.eq_nil_of_length_eq_zero none)
  have same : shown = frames.length := Nat.le_antisymm most least
  rw [same] at bytes
  refine ⟨count, idle, kept, report, address, bytes, ?_⟩
  rcases List.mem_append.mp sent with earlier | later
  · exact .inl earlier
  · simp only [List.mem_cons, List.mem_append, reported_mem_moments] at later
    refine .inr ?_
    simpa using later

end Handover

/-- What the moments of a run say about its frames; the first frame is number one. -/
structure Fresh (frames : List (Vector Binary32 6)) (moments : List Moment) : Prop where
  /-- The frames are latched in order. -/
  inOrder : ∃ coming, moments.filterMap latched? ++ coming = frames
  /-- A read gives one whole frame, that latched last, or zeros before any. -/
  whole : ∀ before result after, moments = before ++ .read analogAddress result :: after →
    latches before ≤ frames.length ∧ result = .ok (shownFrame frames (latches before))
  /-- A later read gives no older frame. -/
  onward : ∀ before first between second after,
    moments = before ++ .read analogAddress first :: between ++
      .read analogAddress second :: after →
      ∃ older newer, older ≤ newer ∧ newer ≤ frames.length ∧
        first = .ok (shownFrame frames older) ∧ second = .ok (shownFrame frames newer)
  /-- A read after a drain gives no older frame than that raised last before the drain. -/
  drained : ∀ before flagged between result after,
    moments = before ++ .drained flagged :: between ++ .read analogAddress result :: after →
      ∃ count, raises before ≤ count ∧ count ≤ frames.length ∧
        result = .ok (shownFrame frames count)
  /-- The first tick that drains after a frame was raised finds the event and, before it
  ends, reports the frame or a later one. -/
  reported : ∀ before gap flagged between after,
    moments = before ++ .raised :: gap ++ .drained flagged :: between ++ .ended :: after →
      (∀ other, .drained other ∉ gap) → (∀ other, .drained other ∉ between) →
        analogAddress ∈ flagged ∧
          ∃ report count, .reported report ∈ between ∧ report.address = analogAddress ∧
            raises before < count ∧ count ≤ frames.length ∧
              report.payload.bytes = shownFrame frames count
  /-- After the last frame was raised, that report holds exactly this frame. -/
  settled : ∀ before gap flagged between after,
    moments = before ++ .raised :: gap ++ .drained flagged :: between ++ .ended :: after →
      (∀ other, .drained other ∉ gap) → (∀ other, .drained other ∉ between) →
        raises before + 1 = frames.length →
          ∃ report, .reported report ∈ between ∧ report.address = analogAddress ∧
            report.payload.bytes = shownFrame frames frames.length

theorem fresh_of_allowed {frames : List (Vector Binary32 6)} {moments : List Moment}
    (inOrder : ∃ coming, moments.filterMap latched? ++ coming = frames)
    (allowed : ∀ {before after : List Moment} {moment : Moment},
      moments = before ++ moment :: after → Handover.Allowed frames before moment) :
    Fresh frames moments := by
  have reported : ∀ before gap flagged between after,
      moments = before ++ .raised :: gap ++ .drained flagged :: between ++ .ended :: after →
        (∀ other, .drained other ∉ gap) → (∀ other, .drained other ∉ between) →
          analogAddress ∈ flagged ∧
            ∃ report count, .reported report ∈ between ∧ report.address = analogAddress ∧
              raises before < count ∧ count ≤ frames.length ∧
                report.payload.bytes = shownFrame frames count := by
    intro before gap flagged between after split untaken kept
    have drains := split
    rw [List.append_assoc, List.cons_append] at drains
    have found := allowed drains (unreported_of_raised untaken)
    obtain ⟨report, ⟨count, fresh, bound, address, bytes⟩, sent⟩ :=
      allowed split _ _ _ rfl kept found
    refine ⟨found, report, count, sent, address, ?_, bound, bytes⟩
    calc raises before
      _ < raises before + raises (.raised :: gap) := by
        have first : raises (.raised :: gap) = raises gap + 1 := List.countP_cons_of_pos rfl
        omega
      _ = raises (before ++ .raised :: gap) := (raises_append _ _).symm
      _ ≤ count := fresh
  constructor
  case inOrder => exact inOrder
  case whole =>
    intro before result after split
    obtain ⟨_, bound, shown⟩ := allowed split
    exact ⟨bound, shown rfl⟩
  case onward =>
    intro before first between second after split
    have earlier := split
    rw [List.append_assoc, List.cons_append] at earlier
    obtain ⟨_, _, older⟩ := allowed earlier
    obtain ⟨_, bound, newer⟩ := allowed split
    refine ⟨_, _, ?_, bound, older rfl, newer rfl⟩
    rw [latches_append]
    exact Nat.le_add_right _ _
  case drained =>
    intro before flagged between result after split
    obtain ⟨latched, bound, shown⟩ := allowed split
    refine ⟨_, Nat.le_trans ?_ latched, bound, shown rfl⟩
    rw [raises_append]
    exact Nat.le_add_right _ _
  case reported => exact reported
  case settled =>
    intro before gap flagged between after split untaken kept last
    obtain ⟨_, report, count, sent, address, fresh, bound, bytes⟩ :=
      reported before gap flagged between after split untaken kept
    have same : count = frames.length := by omega
    rw [same] at bytes
    exact ⟨report, sent, address, bytes⟩

/-- A controller that boots, on any driver, hands its frames over whole, in order and fresh,
however the steps of the routine, of the ticks and of the rest of the program interleave.  At
any time the steps left to themselves make up the routine and the tick, and once the last
frame was raised, the tick that lasts and one more are enough to report it. -/
theorem frames_stay_fresh {pins : β} {signals : Signals} {controller : Controller β}
    (boots : (boot pins signals).1 = .ok controller) (frames : List (Vector Binary32 6)) :
    ∀ moments state, Handover.Reaches { controller, coming := frames } moments state →
      Fresh frames moments ∧ state.Uninterrupted ∧
        (frames ≠ [] → raises moments = frames.length →
          Handover.ReportsLast frames moments state) := by
  intro moments state reaches
  obtain ⟨after, rfl⟩ := booted_of_boot boots
  have initially : Handover.Follows frames [] { controller := booted after, coming := frames } := by
    refine ⟨⟨rfl, rfl, nofun⟩, rfl, rfl, ?_, .inl rfl⟩
    intro lasts
    exact absurd rfl lasts
  have follows := reaches.follows initially
  refine ⟨?_, Handover.uninterrupted follows.current.layout, reaches.reportsLast initially⟩
  exact fresh_of_allowed ⟨_, follows.coming⟩ fun split => reaches.allowed initially split

/-- A frame on a controller that has just booted is the only event of the next tick. -/
theorem events_analogFrame (pins : β) (frame : Vector Binary32 6) :
    ((analogFrame (booted pins) frame).tick 1).takeEvents.1 = [analogAddress] := by
  have flags : ((analogFrame (booted pins) frame).tick 1).signals.flags =
      BitVec.twoPow 32 analogIndex := by
    change (onAnalogFrame Signals.clear frame).flags = _
    have present : analogIndex < Signals.flagCount := by decide
    rw [onAnalogFrame_eq, Signals.raise, if_pos present, Signals.flags_latch]
    exact BitVec.zero_or
  change (flaggedEvents NosePoke.layout _).map NosePoke.layout.addressOf = _
  rw [flags]
  decide

/-- The frame whose channels are all at one. -/
def ones : Vector Binary32 6 := Vector.replicate 6 ⟨0x3F800000⟩

/-- The frame whose channels are all at two. -/
def twos : Vector Binary32 6 := Vector.replicate 6 ⟨0x40000000⟩

/-- A second frame that is latched between the drain of a tick and its read is read and
reported whole, though it was the first frame that raised the event.  As its own event comes
after that tick, one more tick reports it again. -/
theorem frames_stay_fresh_interrupted :
    ∃ controller : Controller Board.ChipPins,
      (boot Board.ChipPins.reset .clear).1 = .ok controller ∧
        ∃ first state, Handover.Reaches { controller, coming := [ones, twos] }
            [.latched ones, .raised, .drained [analogAddress], .latched twos,
              .read analogAddress (.ok (frameBytes twos)), .reported first, .ended, .raised]
            state ∧
          first.address = analogAddress ∧ first.payload.bytes = frameBytes twos ∧
          ∃ second ∈ (onTick state.controller).1,
            second.address = analogAddress ∧ second.payload.bytes = frameBytes twos := by
  obtain ⟨chip, boots, _⟩ := boot_board .reset
  have started := congrArg Prod.fst (boots .clear)
  have fresh := frames_stay_fresh started [ones, twos]
  obtain ⟨middle, latches, raises⟩ := (fresh _ _ .refl).2.1.routine ones [twos] rfl rfl
  have raised := (Handover.Reaches.refl.step (.routine latches)).step (.routine raises)
  have drained := raised.step .tick
  simp only [Handover.tickStep, events_analogFrame] at drained
  have latched := drained.step (.routine rfl)
  have read := latched.step .tick
  have shown := ((fresh _ _ read).1.whole _ _ [] rfl).2
  obtain ⟨payload, bytes, carried⟩ := fst_report? rfl shown
  simp only [Handover.tickStep, carried, TickStage.afterRead] at read
  rw [shown] at read
  have ended := (read.step .tick).step .tick
  let past : List Moment := [.latched ones, .raised, .drained [analogAddress], .latched twos,
    .read analogAddress (.ok (frameBytes twos)), .reported ⟨analogAddress, payload⟩, .ended]
  have settling : Handover.Reaches _ (past ++ [.raised]) _ := ended.step (.routine rfl)
  have further := settling.wholeTick (fresh _ _ settling).2.1 rfl
  obtain ⟨second, sent, address, carries⟩ := (fresh _ _ further).1.settled past [] _ _ [] rfl
    (fun _ => List.not_mem_nil) (Moment.drained_not_mem_moments _) rfl
  exact ⟨_, started, _, _, settling, rfl, bytes, second, Moment.reported_mem_moments.mp sent,
    address, carries⟩

end Instrument.Firmware

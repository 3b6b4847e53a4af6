import Instrument.Pulses

/-!
# Pulses as a table over pins

No two pulses run on one pin, so the list of running pulses is a table from pins
to pulses, looked up by `find?`.  Each operation is described by what it does to
that table.
-/

namespace Instrument

@[simp] theorem Pulse.isOn_iff {pulse : Pulse} {pin : Pin} :
    pulse.isOn pin = true ↔ pulse.line.pin = pin := by
  simp [Pulse.isOn]

namespace Pulses

theorem find?_isOn_of_mem
    {running : List Pulse} (distinct : (running.map (·.line.pin)).Nodup)
    {pulse : Pulse} (member : pulse ∈ running) :
    running.find? (·.isOn pulse.line.pin) = some pulse := by
  induction running with
  | nil => cases member
  | cons head rest induction =>
      rw [List.map_cons, List.nodup_cons] at distinct
      rcases List.mem_cons.mp member with rfl | later
      · simp
      · have different : head.line.pin ≠ pulse.line.pin := by
          intro same
          exact distinct.1 (same ▸ List.mem_map_of_mem later)
        rw [List.find?_cons_of_neg (by simpa using different)]
        exact induction distinct.2 later

theorem find?_eq_some_iff {pulses : Pulses} {pin : Pin} {pulse : Pulse} :
    pulses.find? pin = some pulse ↔
      pulse ∈ pulses.running ∧ pulse.line.pin = pin := by
  constructor
  · intro found
    have runs := List.find?_some found
    exact ⟨List.mem_of_find?_eq_some found, Pulse.isOn_iff.mp runs⟩
  · intro runs
    obtain ⟨member, rfl⟩ := runs
    exact find?_isOn_of_mem pulses.pins_distinct member

theorem find?_congr {first second : Pulses} {pin : Pin}
    (agree : ∀ pulse : Pulse, pulse.line.pin = pin →
      (pulse ∈ first.running ↔ pulse ∈ second.running)) :
    first.find? pin = second.find? pin := by
  apply Option.ext
  intro pulse
  rw [find?_eq_some_iff, find?_eq_some_iff]
  constructor
  · intro runs
    exact ⟨(agree pulse runs.2).mp runs.1, runs.2⟩
  · intro runs
    exact ⟨(agree pulse runs.2).mpr runs.1, runs.2⟩

theorem mem_running_congr {first second : Pulses}
    (same : ∀ pin, first.find? pin = second.find? pin) (pulse : Pulse) :
    pulse ∈ first.running ↔ pulse ∈ second.running := by
  have firstRuns := @find?_eq_some_iff first pulse.line.pin pulse
  have secondRuns := @find?_eq_some_iff second pulse.line.pin pulse
  rw [same, secondRuns] at firstRuns
  simpa using firstRuns.symm

theorem any_isOn_iff {pulses : Pulses} {pin : Pin} :
    pulses.running.any (·.isOn pin) = true ↔
      ∃ pulse ∈ pulses.running, pulse.line.pin = pin := by
  simp

theorem any_isOn_eq_false_iff {pulses : Pulses} {pin : Pin} :
    pulses.running.any (·.isOn pin) = false ↔ pulses.find? pin = Option.none := by
  rw [find?, List.find?_eq_none]
  simp

/-- Starting a pulse renews the one on the line's pin, takes a free timer, or finds none. -/
theorem arm?_cases (pulses : Pulses) (line : OutputLine) (duration : Nat) :
    (pulses.running.any (·.isOn line.pin) = true ∧
        ∃ armed, pulses.arm? line duration = some armed ∧
          armed.running = rearmed pulses.running line duration) ∨
      (pulses.running.any (·.isOn line.pin) = false ∧ pulses.size < capacity ∧
        ∃ armed, pulses.arm? line duration = some armed ∧
          armed.running = pulses.running ++ [⟨line, duration⟩]) ∨
      (pulses.running.any (·.isOn line.pin) = false ∧ ¬ pulses.size < capacity ∧
        pulses.arm? line duration = Option.none) := by
  rw [arm?]
  split
  · rename_i running
    exact .inl ⟨running, _, rfl, rfl⟩
  · rename_i absent
    have idle := Bool.eq_false_iff.mpr absent
    split
    · rename_i free
      exact .inr (.inl ⟨idle, free, _, rfl, rfl⟩)
    · rename_i busy
      exact .inr (.inr ⟨idle, busy, rfl⟩)

/-- A pulse can be started when a timer is free or one runs on the line's pin. -/
theorem exists_arm?_iff (pulses : Pulses) (line : OutputLine) (duration : Nat) :
    (∃ armed, pulses.arm? line duration = some armed) ↔
      pulses.size < capacity ∨
        ∃ pulse ∈ pulses.running, pulse.line.pin = line.pin := by
  rw [← any_isOn_iff]
  rcases pulses.arm?_cases line duration with
    ⟨present, armed, success, _⟩ | ⟨_, free, armed, success, _⟩ | ⟨absent, busy, failure⟩
  · exact iff_of_true ⟨armed, success⟩ (.inr present)
  · exact iff_of_true ⟨armed, success⟩ (.inl free)
  · apply iff_of_false
    · intro started
      obtain ⟨armed, success⟩ := started
      rw [failure] at success
      cases success
    · intro either
      rcases either with free | present
      · exact busy free
      · rw [absent] at present
        cases present

theorem mem_running_arm?
    {pulses armed : Pulses} {line : OutputLine} {duration : Nat}
    (started : pulses.arm? line duration = some armed) (pulse : Pulse) :
    pulse ∈ armed.running ↔
      pulse = ⟨line, duration⟩ ∨
        pulse ∈ pulses.running ∧ pulse.line.pin ≠ line.pin := by
  rcases pulses.arm?_cases line duration with
    ⟨present, _, success, running⟩ | ⟨absent, _, _, success, running⟩ | ⟨_, _, failure⟩
  · obtain ⟨old, oldMember, oldPin⟩ := any_isOn_iff.mp present
    rw [success] at started
    cases started
    simp only [running, rearmed, List.mem_map]
    constructor
    · intro image
      obtain ⟨source, member, rfl⟩ := image
      by_cases same : source.line.pin = line.pin
      · exact .inl (by simp [same])
      · exact .inr (by simp [same, member])
    · intro either
      rcases either with rfl | ⟨member, different⟩
      · exact ⟨old, oldMember, by simp [oldPin]⟩
      · exact ⟨pulse, member, by simp [different]⟩
  · rw [success] at started
    cases started
    rw [running, List.mem_append, List.mem_singleton]
    constructor
    · intro either
      rcases either with member | new
      · refine .inr ⟨member, ?_⟩
        intro same
        exact Bool.eq_false_iff.mp absent (any_isOn_iff.mpr ⟨pulse, member, same⟩)
      · exact .inl new
    · intro either
      rcases either with new | ⟨member, _⟩
      · exact .inr new
      · exact .inl member
  · rw [failure] at started
    cases started

theorem find?_arm?
    {pulses armed : Pulses} {line : OutputLine} {duration : Nat}
    (started : pulses.arm? line duration = some armed) (pin : Pin) :
    armed.find? pin =
      if pin = line.pin then some ⟨line, duration⟩ else pulses.find? pin := by
  split
  · rename_i same
    subst same
    apply find?_eq_some_iff.mpr
    exact ⟨(mem_running_arm? started _).mpr (.inl rfl), rfl⟩
  · rename_i different
    apply find?_congr
    intro pulse onPin
    subst onPin
    rw [mem_running_arm? started]
    constructor
    · intro either
      rcases either with new | old
      · rw [new] at different
        exact (different rfl).elim
      · exact old.1
    · intro member
      exact .inr ⟨member, different⟩

theorem size_arm?_le {pulses armed : Pulses} {line : OutputLine} {duration : Nat}
    (started : pulses.arm? line duration = some armed) : armed.size ≤ pulses.size + 1 := by
  rcases pulses.arm?_cases line duration with
    ⟨_, _, success, running⟩ | ⟨_, _, _, success, running⟩ | ⟨_, _, failure⟩
  · rw [success] at started
    cases started
    rw [size, running, rearmed, List.length_map]
    exact Nat.le_succ _
  · rw [success] at started
    cases started
    rw [size, running, List.length_append]
    exact Nat.le_refl _
  · rw [failure] at started
    cases started

theorem mem_running_cancel (pulses : Pulses) (pin : Pin) (pulse : Pulse) :
    pulse ∈ (pulses.cancel pin).2.running ↔
      pulse ∈ pulses.running ∧ pulse.line.pin ≠ pin := by
  simp only [cancel, filter, List.mem_filter, Bool.not_eq_true', ← Bool.not_eq_true,
    Pulse.isOn_iff, ne_eq]

theorem find?_cancel (pulses : Pulses) (pin other : Pin) :
    (pulses.cancel pin).2.find? other =
      if other = pin then Option.none else pulses.find? other := by
  split
  · rename_i same
    subst same
    apply Option.eq_none_iff_forall_ne_some.mpr
    intro pulse found
    obtain ⟨member, onPin⟩ := find?_eq_some_iff.mp found
    exact ((pulses.mem_running_cancel other pulse).mp member).2 onPin
  · rename_i different
    apply find?_congr
    intro pulse onPin
    subst onPin
    rw [mem_running_cancel]
    constructor
    · intro kept
      exact kept.1
    · intro member
      exact ⟨member, different⟩

/-- Give up the pulses on the pins of some lines. -/
def cancelEach (pulses : Pulses) (lines : List OutputLine) : Pulses :=
  lines.foldl (fun pulses line => (pulses.cancel line.pin).2) pulses

theorem find?_cancelEach (pulses : Pulses) (lines : List OutputLine) (pin : Pin) :
    (pulses.cancelEach lines).find? pin =
      if pin ∈ lines.map (·.pin) then Option.none else pulses.find? pin := by
  induction lines generalizing pulses with
  | nil => simp [cancelEach]
  | cons line rest induction =>
      have later := induction (pulses.cancel line.pin).2
      rw [find?_cancel] at later
      change ((pulses.cancel line.pin).2.cancelEach rest).find? pin = _
      rw [later]
      by_cases first : pin = line.pin
      · simp [first]
      · simp [first]

theorem size_cancelEach_le (pulses : Pulses) (lines : List OutputLine) :
    (pulses.cancelEach lines).size ≤ pulses.size := by
  induction lines generalizing pulses with
  | nil => exact Nat.le_refl _
  | cons line rest induction =>
      exact Nat.le_trans (induction (pulses.cancel line.pin).2) (List.length_filter_le _ _)

/-- Time takes away the pulses it reaches the end of and shortens the others. -/
theorem find?_advance (pulses : Pulses) (elapsed : Nat) (pin : Pin) :
    (pulses.advance elapsed).2.find? pin =
      (pulses.find? pin).bind fun pulse =>
        if pulse.remaining ≤ elapsed then Option.none
        else some { pulse with remaining := pulse.remaining - elapsed } := by
  apply Option.ext
  intro pulse
  simp only [find?_eq_some_iff, Option.bind_eq_some_iff, advance, elapse, filter,
    List.mem_map, List.mem_filter, decide_eq_true_eq]
  constructor
  · intro found
    obtain ⟨⟨source, ⟨member, runsOn⟩, rfl⟩, rfl⟩ := found
    exact ⟨source, ⟨member, rfl⟩, by rw [if_neg (Nat.not_le_of_lt runsOn)]⟩
  · intro found
    obtain ⟨source, ⟨member, rfl⟩, left⟩ := found
    split at left
    · cases left
    · rename_i runsOn
      cases left
      exact ⟨⟨source, ⟨member, Nat.lt_of_not_le runsOn⟩, rfl⟩, rfl⟩

/-- A line is released exactly when time reaches the end of its pulse. -/
theorem mem_ended_iff {pulses : Pulses} {elapsed : Nat} {line : OutputLine} :
    line ∈ (pulses.advance elapsed).1 ↔
      ∃ pulse, pulses.find? line.pin = some pulse ∧ pulse.line = line ∧
        pulse.remaining ≤ elapsed := by
  simp only [advance, List.mem_map, List.mem_filter, decide_eq_true_eq,
    find?_eq_some_iff]
  constructor
  · intro ended
    obtain ⟨pulse, ⟨member, reached⟩, rfl⟩ := ended
    exact ⟨pulse, ⟨member, rfl⟩, rfl, reached⟩
  · intro found
    obtain ⟨pulse, ⟨member, _⟩, rfl, reached⟩ := found
    exact ⟨pulse, ⟨member, reached⟩, rfl⟩

theorem pins_ended_nodup (pulses : Pulses) (elapsed : Nat) :
    ((pulses.advance elapsed).1.map (·.pin)).Nodup := by
  rw [advance, List.map_map]
  exact pulses.pins_distinct.sublist (List.filter_sublist.map _)

end Pulses

end Instrument

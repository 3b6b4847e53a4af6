import Instrument.NosePoke.Registers
import Instrument.Proofs.Runs

/-!
# Registers that keep what is written to them

All registers share one store, and reads copy samples into it.  For a register
that is neither sampled nor counted the store still behaves as a table from
addresses to payloads: `lastFor` looks an address up in the history of a run, and
every step leaves in the register what the history says.
-/

namespace Instrument

/-- A register that shows what was last written to it. -/
def Behaviour.keepsWrites : Behaviour → Bool
  | .setting _ | .drive _ _ | .pulse _ _ => true
  | .pins _ | .latch _ | .constant | .counter _ _ => false

/-- A register that is brought up to date by reading it. -/
def Behaviour.samples : Behaviour → Bool
  | .pins _ | .latch _ | .counter _ _ => true
  | .constant | .setting _ | .drive _ _ | .pulse _ _ => false

/-- The last payload that a history has for an address. -/
def lastFor (address : UInt8) (entries : List (UInt8 × Bytes)) : Option Bytes :=
  ((entries.filter (·.1 == address)).getLast?).map (·.2)

theorem lastFor_append (address : UInt8) (front back : List (UInt8 × Bytes)) :
    lastFor address (front ++ back) =
      (lastFor address back).or (lastFor address front) := by
  rw [lastFor, List.filter_append, List.getLast?_append, Option.map_or]
  rfl

theorem lastFor_singleton (address other : UInt8) (payload : Bytes) :
    lastFor address [(other, payload)] =
      if other = address then some payload else none := by
  by_cases same : other = address
  · simp [lastFor, same]
  · simp [lastFor, same]

theorem lastFor_eq_none {address : UInt8} {entries : List (UInt8 × Bytes)}
    (absent : ∀ entry ∈ entries, entry.1 ≠ address) :
    lastFor address entries = none := by
  rw [lastFor, Option.map_eq_none_iff, List.getLast?_eq_none_iff,
    List.filter_eq_nil_iff]
  intro entry member same
  exact absent entry member (eq_of_beq same)

namespace Controller

variable {β : Type}

/-- The bytes of the store in the place that a layout gives a register. -/
def held (controller : Controller β) (layout : Layout) (index : Fin layout.size) :
    Bytes :=
  controller.store.view (layout.start index) (layout.register index).size

theorem held_putStored (controller : Controller β)
    (written index : Fin controller.layout.size) {data : Bytes}
    (sized : data.length = (controller.layout.register written).size) :
    (controller.putStored written data).held controller.layout index =
      if written = index then data else controller.held controller.layout index := by
  rw [held, held, putStored]
  split
  · rename_i same
    subst same
    rw [← sized]
    apply controller.store.view_overwrite
    rw [sized]
    exact controller.layout.stop_le_totalBytes written
  · rename_i different
    apply controller.store.view_overwrite_apart
    rw [sized]
    exact controller.layout.apart (Ne.symm different)

/-- What is put into a register is remembered under its address. -/
theorem held_putStored_eq_lastFor (controller : Controller β)
    (written index : Fin controller.layout.size) {data : Bytes}
    (sized : data.length = (controller.layout.register written).size) :
    (controller.putStored written data).held controller.layout index =
      (lastFor (controller.layout.addressOf index)
        [(controller.layout.addressOf written, data)]).getD
          (controller.held controller.layout index) := by
  rw [controller.held_putStored written index sized, lastFor_singleton]
  by_cases same : written = index
  · rw [if_pos same, if_pos (congrArg _ same), Option.getD_some]
  · have elsewhere :
        controller.layout.addressOf written ≠ controller.layout.addressOf index := by
      intro equal
      exact same (controller.layout.addressOf_injective equal)
    rw [if_neg same, if_neg elsewhere, Option.getD_none]

theorem held_loadAll {layout : Layout} {controller loaded : Controller β}
    (same : controller.layout = layout) {contents : List (UInt8 × Bytes)}
    (success : controller.loadAll contents = .ok loaded)
    (index : Fin layout.size) :
    loaded.layout = layout ∧
      loaded.held layout index =
        (lastFor (layout.addressOf index) contents).getD
          (controller.held layout index) := by
  induction contents generalizing controller with
  | nil =>
      cases success
      exact ⟨same, rfl⟩
  | cons entry rest induction =>
      obtain ⟨address, data⟩ := entry
      obtain ⟨written, place, sized, loads⟩ := loadAll_cons_cases success
      subst same
      subst place
      have kept :
          (controller.putStored written data).layout = controller.layout := rfl
      have later := induction kept loads
      refine ⟨later.1, ?_⟩
      rw [later.2, ← List.singleton_append, lastFor_append, Option.getD_or]
      exact congrArg _ (controller.held_putStored_eq_lastFor written index sized)

theorem held_started {layout : Layout} {pins : β}
    {contents : List (UInt8 × Bytes)} {controller : Controller β}
    (started : Started layout pins contents controller)
    (index : Fin layout.size) :
    controller.layout = layout ∧
      controller.held layout index =
        (lastFor (layout.addressOf index) contents).getD
          (Bytes.zeros (layout.register index).size) := by
  obtain ⟨signals, loads⟩ := started.loads
  obtain ⟨same, remembered⟩ := held_loadAll rfl loads index
  refine ⟨same, ?_⟩
  rw [← Store.view_zeroed (layout.stop_le_totalBytes index)]
  exact remembered

variable [PinDriver β]

/-- A read leaves in place what its register does not sample. -/
theorem held_refresh (controller : Controller β)
    (read index : Fin controller.layout.size)
    (unsampled : (controller.layout.register index).behaviour.samples = false) :
    (controller.refresh read).held controller.layout index =
      controller.held controller.layout index := by
  rw [refresh, controller.held_putStored read index (controller.length_sampled read)]
  split
  · rename_i same
    subst same
    rw [sampled]
    cases behaviour : (controller.layout.register read).behaviour with
    | constant | setting | drive | pulse => rfl
    | pins | latch | counter =>
        rw [behaviour] at unsampled
        cases unsampled
  · rfl

theorem held_step {layout : Layout} {controller : Controller β}
    (same : controller.layout = layout) (operation : Operation β)
    {index : Fin layout.size}
    (unsampled : (layout.register index).behaviour.samples = false) :
    (controller.step operation).held layout index =
      (lastFor (layout.addressOf index)
        (controller.acceptedWrite? operation).toList).getD
          (controller.held layout index) := by
  subst same
  cases operation with
  | read address =>
      have ended := controller.read_ends address
      rw [step]
      generalize controller.read address = outcome at ended ⊢
      cases ended with
      | invalidAddress => rfl
      | sampled => exact controller.held_refresh _ index unsampled
  | write address payload =>
      have ended := controller.write_ends address payload
      rw [step, acceptedWrite?]
      generalize controller.write address payload = outcome at ended ⊢
      cases ended with
      | invalidAddress | sizeMismatch | rejected => rfl
      | taken place sized =>
          subst place
          exact controller.held_putStored_eq_lastFor _ index sized
  | tick | takeEvents | signal | pins => rfl

theorem held_run {layout : Layout} {controller : Controller β}
    (same : controller.layout = layout) (operations : List (Operation β))
    {index : Fin layout.size}
    (unsampled : (layout.register index).behaviour.samples = false) :
    (controller.run operations).held layout index =
      (lastFor (layout.addressOf index)
        (controller.acceptedWrites operations)).getD
          (controller.held layout index) := by
  induction operations generalizing controller with
  | nil => rfl
  | cons operation rest induction =>
      have next := (controller.layout_step operation).trans same
      rw [run_cons, induction next, acceptedWrites, lastFor_append, Option.getD_or,
        held_step same operation unsampled]

/-- No write to a register that accepts none is in the history. -/
theorem lastFor_acceptedWrites_eq_none {layout : Layout}
    {controller : Controller β} (same : controller.layout = layout)
    (operations : List (Operation β)) {index : Fin layout.size}
    (refuses : (layout.register index).behaviour.acceptsWrites = false) :
    lastFor (layout.addressOf index) (controller.acceptedWrites operations) =
      none := by
  induction operations generalizing controller with
  | nil => rfl
  | cons operation rest induction =>
      have next := (controller.layout_step operation).trans same
      rw [acceptedWrites, lastFor_append, induction next, Option.none_or]
      apply lastFor_eq_none
      intro entry member place
      have accepted := acceptedWrite?_eq_some_iff.mp (Option.mem_toList.mp member)
      obtain ⟨written, here, _, takes⟩ := controller.write_taken accepted.2
      subst same
      rw [controller.layout.addressOf_injective (here.trans place)] at takes
      rw [takes.acceptsWrites] at refuses
      cases refuses

/-- What a register that is not sampled shows, to a read and to a look at its
bytes. -/
theorem read_eq_held {layout : Layout} {controller : Controller β}
    (same : controller.layout = layout) {index : Fin layout.size}
    (unsampled : (layout.register index).behaviour.samples = false) :
    (controller.read (layout.addressOf index)).1 =
        .ok (controller.held layout index) ∧
      controller.readSpan (layout.start index) (layout.register index).size =
        some (controller.held layout index) := by
  subst same
  constructor
  · rw [read, locate, Layout.indexOf?_addressOf]
    exact congrArg _ (controller.held_refresh index index unsampled)
  · exact controller.store.slice?_eq_view
      (controller.layout.stop_le_totalBytes index)

/-- The payload that a history leaves in a register: the last one for its address,
or zeros. -/
def remembered (layout : Layout) (index : Fin layout.size)
    (history : List (UInt8 × Bytes)) : Bytes :=
  (lastFor (layout.addressOf index) history).getD
    (Bytes.zeros (layout.register index).size)

/-- After any run a register that keeps its writes shows the last write accepted
for its address, before any of them the last contents loaded into it, and zeros
without either; a constant shows its contents.  A look at the bytes of the register
shows the same. -/
theorem read_after_run {layout : Layout} {pins : β}
    {contents : List (UInt8 × Bytes)} {controller : Controller β}
    (started : Started layout pins contents controller)
    (operations : List (Operation β)) (index : Fin layout.size) :
    ((layout.register index).behaviour.keepsWrites = true →
      ((controller.run operations).read (layout.addressOf index)).1 =
          .ok (remembered layout index
            (contents ++ controller.acceptedWrites operations)) ∧
        (controller.run operations).readSpan (layout.start index)
            (layout.register index).size =
          some (remembered layout index
            (contents ++ controller.acceptedWrites operations))) ∧
      ((layout.register index).behaviour = .constant →
        ((controller.run operations).read (layout.addressOf index)).1 =
            .ok (remembered layout index contents) ∧
          (controller.run operations).readSpan (layout.start index)
              (layout.register index).size =
            some (remembered layout index contents)) := by
  obtain ⟨same, initially⟩ := held_started started index
  have sameAfter := (controller.layout_run operations).trans same
  have afterwards : (layout.register index).behaviour.samples = false →
      (controller.run operations).held layout index =
        remembered layout index
          (contents ++ controller.acceptedWrites operations) := by
    intro unsampled
    rw [held_run same operations unsampled, initially, remembered, lastFor_append,
      Option.getD_or]
  constructor
  · intro keeps
    have unsampled : (layout.register index).behaviour.samples = false := by
      cases behaviour : (layout.register index).behaviour with
      | setting | drive | pulse => rfl
      | pins | latch | constant | counter =>
          rw [behaviour] at keeps
          cases keeps
    rw [← afterwards unsampled]
    exact read_eq_held sameAfter unsampled
  · intro constant
    have unsampled : (layout.register index).behaviour.samples = false := by
      rw [constant]
      rfl
    have refuses : (layout.register index).behaviour.acceptsWrites = false := by
      rw [constant]
      rfl
    have unwritten : remembered layout index
        (contents ++ controller.acceptedWrites operations) =
          remembered layout index contents := by
      rw [remembered, lastFor_append,
        lastFor_acceptedWrites_eq_none same operations refuses, Option.none_or,
        remembered]
    rw [← unwritten, ← afterwards unsampled]
    exact read_eq_held sameAfter unsampled

/-- Register 38 of the nose-poke controller is loaded once, written once, refuses a
longer payload and stays through neighbouring writes and reads. -/
theorem read_after_run_nosePoke :
    ∃ controller, Started NosePoke.layout SimulatedPins.fresh
        [(38, [7, 7, 7])] controller ∧
      ((controller.run [.write 38 [4, 5, 6], .write 38 [9], .write 39 [1],
        .read 32, .write 42 [1, 0], .tick 1]).read 38).1 = .ok [4, 5, 6] := by
  have started : Started NosePoke.layout SimulatedPins.fresh [(38, [7, 7, 7])] _ :=
    .start (show Controller.start NosePoke.layout 111 SimulatedPins.fresh .clear
      [(38, [7, 7, 7])] = .ok _ from rfl)
  refine ⟨_, started, ?_⟩
  exact ((read_after_run started [.write 38 [4, 5, 6], .write 38 [9], .write 39 [1],
        .read 32, .write 42 [1, 0], .tick 1] ⟨6, by decide⟩).1 rfl).1

end Controller

end Instrument

import Instrument.Proofs.Partition
import Instrument.Proofs.StoredRegisters

/-!
# Contents loaded at the start

A controller starts over a store of the size of its layout, with contents that each name a
register and fill it.  The first entry that does not is the one that keeps it from starting.
Entries are put into the store alone, whatever their registers do with a write; the last one
for a register stays, and a register without one is zero.
-/

namespace Instrument

namespace Layout

variable (layout : Layout)

/-- The entry names a register and has as many bytes as the register takes. -/
def Admits (entry : UInt8 × Bytes) : Prop :=
  ∃ register ∈ layout.registers, register.descriptor.address = entry.1 ∧
    entry.2.length = register.descriptor.count * register.descriptor.kind.width

/-- What keeps an entry from being loaded: its address, or else its size. -/
inductive Refuses : UInt8 × Bytes → RequestError → Prop where
  | invalidAddress {address : UInt8} {data : Bytes} :
      ¬ (layout.minAddress ≤ address ∧ address ≤ layout.maxAddress) →
      Refuses (address, data) (.invalidAddress address)
  | sizeMismatch {register : Register} {data : Bytes} :
      register ∈ layout.registers →
      data.length ≠ register.descriptor.count * register.descriptor.kind.width →
      Refuses (register.descriptor.address, data)
        (.sizeMismatch (register.descriptor.count * register.descriptor.kind.width) data.length)

/-- What keeps the first entry that is refused from being loaded. -/
def FirstRefused (contents : List (UInt8 × Bytes)) (reason : RequestError) : Prop :=
  ∃ before entry after, contents = before ++ entry :: after ∧
    (∀ earlier ∈ before, layout.Admits earlier) ∧ layout.Refuses entry reason

theorem exists_index_of_mem {register : Register} (member : register ∈ layout.registers) :
    ∃ index, layout.register index = register ∧
      layout.addressOf index = register.descriptor.address := by
  obtain ⟨index, found⟩ := List.get_of_mem member
  refine ⟨index, found, ?_⟩
  rw [← layout.address_register index, ← found]
  rfl

theorem admits_or_refuses (entry : UInt8 × Bytes) :
    layout.Admits entry ∨ ∃ reason, layout.Refuses entry reason := by
  obtain ⟨address, data⟩ := entry
  by_cases inside : layout.minAddress ≤ address ∧ address ≤ layout.maxAddress
  · obtain ⟨index, rfl⟩ := (layout.exists_addressOf_iff address).mpr inside
    have member : layout.register index ∈ layout.registers := List.get_mem _ _
    rw [← layout.address_register index]
    by_cases sized : data.length = (layout.register index).size
    · exact .inl ⟨_, member, rfl, sized⟩
    · exact .inr ⟨_, .sizeMismatch member sized⟩
  · exact .inr ⟨_, .invalidAddress inside⟩

theorem admitted_or_firstRefused (contents : List (UInt8 × Bytes)) :
    (∀ entry ∈ contents, layout.Admits entry) ∨ ∃ reason, layout.FirstRefused contents reason := by
  induction contents with
  | nil => exact .inl (List.forall_mem_nil _)
  | cons entry rest induction =>
      rcases layout.admits_or_refuses entry with admitted | ⟨reason, refused⟩
      · rcases induction with others | ⟨reason, before, later, after, split, earlier, refused⟩
        · exact .inl (List.forall_mem_cons.mpr ⟨admitted, others⟩)
        · refine .inr ⟨reason, entry :: before, later, after, ?_, ?_, refused⟩
          · rw [split, List.cons_append]
          · exact List.forall_mem_cons.mpr ⟨admitted, earlier⟩
      · exact .inr ⟨reason, [], entry, rest, rfl, List.forall_mem_nil _, refused⟩

end Layout

namespace Controller

variable {β : Type} {controller : Controller β} {contents : List (UInt8 × Bytes)}
  {reason : RequestError}

theorem load_of_admits {address : UInt8} {data : Bytes}
    (admitted : controller.layout.Admits (address, data)) :
    ∃ index, controller.load address data = .ok (controller.putStored index data) := by
  obtain ⟨register, member, same, sized⟩ := admitted
  obtain ⟨index, rfl, place⟩ := controller.layout.exists_index_of_mem member
  have named : controller.layout.addressOf index = address := place.trans same
  have fills : data.length = (controller.layout.register index).size := sized
  refine ⟨index, ?_⟩
  rw [load, ← named, locateSized_addressOf, if_pos fills]

theorem load_of_refuses {address : UInt8} {data : Bytes}
    (refused : controller.layout.Refuses (address, data) reason) :
    controller.load address data = .error reason := by
  cases refused with
  | invalidAddress outside =>
      rw [load, locateSized, locate, controller.layout.indexOf?_eq_none_iff.mpr outside]
  | sizeMismatch member missized =>
      obtain ⟨index, rfl, place⟩ := controller.layout.exists_index_of_mem member
      have differs : data.length ≠ (controller.layout.register index).size := missized
      rw [load, ← place, locateSized_addressOf, if_neg differs]
      rfl

theorem loadAll_of_admits (admitted : ∀ entry ∈ contents, controller.layout.Admits entry) :
    ∃ loaded, controller.loadAll contents = .ok loaded := by
  induction contents generalizing controller with
  | nil => exact ⟨controller, rfl⟩
  | cons entry rest induction =>
      rw [List.forall_mem_cons] at admitted
      obtain ⟨index, first⟩ := load_of_admits admitted.1
      rw [loadAll, first]
      exact induction admitted.2

/-- Entries before the first that is refused are put into the store, and those after it are
not looked at. -/
theorem loadAll_of_firstRefused (refuses : controller.layout.FirstRefused contents reason) :
    controller.loadAll contents = .error reason := by
  obtain ⟨before, entry, after, rfl, earlier, refused⟩ := refuses
  induction before generalizing controller with
  | nil => rw [List.nil_append, loadAll, load_of_refuses refused]
  | cons first before induction =>
      rw [List.forall_mem_cons] at earlier
      obtain ⟨index, loaded⟩ := load_of_admits earlier.1
      rw [List.cons_append, loadAll, loaded]
      exact induction earlier.2 refused

/-- What a start leaves.  The store is the row of the registers, each with the last contents
for its address or zeros, and all else is as it was given. -/
structure StartsWith (controller : Controller β) (layout : Layout) (pins : β) (signals : Signals)
    (contents : List (UInt8 × Bytes)) : Prop where
  layout_eq : controller.layout = layout
  bytes_eq : controller.store.bytes =
    (List.finRange layout.size).flatMap fun index => remembered layout index contents
  shown : ∀ index, controller.readSpan (layout.start index) (layout.register index).size =
    some (remembered layout index contents)
  pins_eq : controller.pins = pins
  signals_eq : controller.signals = signals
  pulses_eq : controller.pulses = .none

theorem signals_loadAll {loaded : Controller β} (success : controller.loadAll contents = .ok loaded) :
    loaded.signals = controller.signals := by
  induction contents generalizing controller with
  | nil =>
      cases success
      rfl
  | cons entry rest induction =>
      obtain ⟨index, _, _, later⟩ := loadAll_cons_cases success
      have kept := induction later
      exact kept

theorem startsWith_loadAll {layout : Layout} {pins : β} {signals : Signals} {loaded : Controller β}
    (success : loadAll { layout, store := .zeroed, pins, signals, pulses := .none } contents =
      .ok loaded) :
    loaded.StartsWith layout pins signals contents := by
  have held : ∀ index, loaded.held layout index = remembered layout index contents := by
    intro index
    rw [(held_loadAll rfl success index).2, remembered,
      ← Store.view_zeroed (layout.stop_le_totalBytes index)]
    rfl
  have kept := loadAll_keeps success
  have same : loaded.layout = layout := layout_loadAll success
  refine ⟨same, ?_, ?_, kept.1, signals_loadAll success, kept.2⟩
  · subst same
    rw [← loaded.flatMap_stored]
    exact congrArg (List.flatMap · _) (funext held)
  · intro index
    subst same
    rw [← held index]
    exact loaded.store.slice?_eq_view (loaded.layout.stop_le_totalBytes index)

section Start

variable {layout : Layout} {storeSize : Nat} (pins : β) (signals : Signals)

theorem start_of_missized (missized : layout.totalBytes ≠ storeSize) :
    start layout storeSize pins signals contents =
      .error (.layout (.sizeMismatch layout.totalBytes storeSize)) := by
  rw [start, bind_eq, if_neg missized]

theorem start_of_firstRefused (sized : layout.totalBytes = storeSize)
    (refuses : layout.FirstRefused contents reason) :
    start layout storeSize pins signals contents = .error (.contents reason) := by
  have fails : loadAll { layout, store := .zeroed, pins, signals, pulses := .none } contents =
      .error reason := loadAll_of_firstRefused refuses
  simp only [start, bind_eq, if_pos sized, fails]

theorem start_of_admits (sized : layout.totalBytes = storeSize)
    (admitted : ∀ entry ∈ contents, layout.Admits entry) :
    ∃ controller, start layout storeSize pins signals contents = .ok controller ∧
      controller.StartsWith layout pins signals contents := by
  obtain ⟨loaded, success⟩ : ∃ loaded,
      loadAll { layout, store := .zeroed, pins, signals, pulses := .none } contents =
        .ok loaded := loadAll_of_admits admitted
  refine ⟨loaded, ?_, startsWith_loadAll success⟩
  simp only [start, bind_eq, if_pos sized, success]

theorem startsWith_of_ok {controller : Controller β}
    (started : start layout storeSize pins signals contents = .ok controller) :
    layout.totalBytes = storeSize ∧ (∀ entry ∈ contents, layout.Admits entry) ∧
      controller.StartsWith layout pins signals contents := by
  by_cases sized : layout.totalBytes = storeSize
  · rcases layout.admitted_or_firstRefused contents with admitted | ⟨reason, refuses⟩
    · obtain ⟨other, startsOther, startsWith⟩ := start_of_admits pins signals sized admitted
      rw [started] at startsOther
      cases startsOther
      exact ⟨sized, admitted, startsWith⟩
    · rw [start_of_firstRefused pins signals sized refuses] at started
      cases started
  · rw [start_of_missized pins signals sized] at started
    cases started

theorem start_eq_error_iff {cause : BootError} :
    start layout storeSize pins signals contents = .error cause ↔
      layout.totalBytes ≠ storeSize ∧
          cause = .layout (.sizeMismatch layout.totalBytes storeSize) ∨
        layout.totalBytes = storeSize ∧
          ∃ reason, cause = .contents reason ∧ layout.FirstRefused contents reason := by
  constructor
  · intro fails
    by_cases sized : layout.totalBytes = storeSize
    · rcases layout.admitted_or_firstRefused contents with admitted | ⟨reason, refuses⟩
      · obtain ⟨controller, started, _⟩ := start_of_admits pins signals sized admitted
        rw [started] at fails
        cases fails
      · rw [start_of_firstRefused pins signals sized refuses] at fails
        cases fails
        exact .inr ⟨sized, reason, rfl, refuses⟩
    · rw [start_of_missized pins signals sized] at fails
      cases fails
      exact .inl ⟨sized, rfl⟩
  · intro wrong
    rcases wrong with ⟨missized, rfl⟩ | ⟨sized, reason, rfl, refuses⟩
    · exact start_of_missized pins signals missized
    · exact start_of_firstRefused pins signals sized refuses

end Start

/-- A controller starts exactly if its store has the size of the layout and every entry names a
register and fills it.  Otherwise the answer is the size of the store, or else what is wrong
with the first entry that does not: its address, or else its size.  A controller that starts
has in each register the last contents for it, whatever the register does with writes, and
zeros in all others; pins and signals are those given, and no pulse runs. -/
theorem contents_loaded (layout : Layout) (storeSize : Nat) (pins : β) (signals : Signals)
    (contents : List (UInt8 × Bytes)) :
    let outcome := start layout storeSize pins signals contents
    ((∃ controller, outcome = .ok controller) ↔
        layout.totalBytes = storeSize ∧ ∀ entry ∈ contents, layout.Admits entry) ∧
      (∀ cause, outcome = .error cause ↔
        layout.totalBytes ≠ storeSize ∧
            cause = .layout (.sizeMismatch layout.totalBytes storeSize) ∨
          layout.totalBytes = storeSize ∧
            ∃ reason, cause = .contents reason ∧ layout.FirstRefused contents reason) ∧
      ∀ controller, outcome = .ok controller →
        controller.StartsWith layout pins signals contents := by
  intro outcome
  refine ⟨?_, fun _ => start_eq_error_iff pins signals, ?_⟩
  · constructor
    · intro starts
      obtain ⟨controller, started⟩ := starts
      have sized := startsWith_of_ok pins signals started
      exact ⟨sized.1, sized.2.1⟩
    · intro fits
      obtain ⟨controller, started, _⟩ := start_of_admits pins signals fits.1 fits.2
      exact ⟨controller, started⟩
  · intro controller started
    exact (startsWith_of_ok pins signals started).2.2

/-- Contents that a write would be refused are loaded like any others. -/
example :
    (start NosePoke.layout 111 SimulatedPins.fresh .clear
        [(34, 3 :: Bytes.zeros 16), (35, 9 :: Bytes.zeros 31)]).toOption.map
      (fun controller => (controller.readSpan 25 2, (controller.write 34 (3 :: Bytes.zeros 16)).1,
        controller.readSpan 42 2)) =
      some (some [3, 0], .error .rejected, some [9, 0]) := by rfl

end Controller

end Instrument

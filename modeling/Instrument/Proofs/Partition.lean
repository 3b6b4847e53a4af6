import Instrument.Proofs.FaultFreedom

/-!
# The store as a row of registers

Adding up sizes register by register gives each register its place.  The places
follow one another from the first byte of the store to its last, and looking up an
address is the inverse of giving a register its address.  Whatever a store holds is
therefore the bytes of its registers, one after the other.
-/

namespace Instrument

/-- Cutting bytes at the places of registers and joining the pieces gives the bytes
back, as far as the registers reach. -/
theorem Register.flatten_pieces (registers : List Register) (bytes : Bytes) :
    ((List.finRange registers.length).map fun index : Fin registers.length =>
        (bytes.drop (totalSize (registers.take index))).take
          (registers.get index).size).flatten =
      bytes.take (totalSize registers) := by
  induction registers generalizing bytes with
  | nil => simp [totalSize]
  | cons register rest induction =>
      have later := induction (bytes.drop register.size)
      simp only [List.drop_drop] at later
      have places : List.finRange (register :: rest).length =
          0 :: (List.finRange rest.length).map Fin.succ := List.finRange_succ
      rw [places, List.map_cons, List.map_map, List.flatten_cons, totalSize,
        List.take_add, ← later]
      rfl

namespace Layout

variable (layout : Layout)

/-- The places of the registers, as their sizes add up, run through the store without
a gap, an overlap or an empty place. -/
structure Consecutive : Prop where
  accumulated : ∀ index : Fin layout.size,
    (offsetsFrom 0 layout.registers)[(index : Nat)]? = some (layout.start index)
  first : ∀ index : Fin layout.size, (index : Nat) = 0 → layout.start index = 0
  next : ∀ index next : Fin layout.size, (next : Nat) = index + 1 →
    layout.start next = layout.stop index
  last : ∀ index : Fin layout.size, (index : Nat) + 1 = layout.size →
    layout.stop index = layout.totalBytes
  sized : ∀ index, layout.stop index = layout.start index +
    (layout.register index).descriptor.count *
      (layout.register index).descriptor.kind.width
  nonempty : ∀ index, layout.start index < layout.stop index
  disjoint : ∀ first second, first ≠ second → ∀ position,
    layout.start first ≤ position → position < layout.stop first →
      ¬ (layout.start second ≤ position ∧ position < layout.stop second)
  covered : ∀ position, position < layout.totalBytes ↔
    ∃ index, layout.start index ≤ position ∧ position < layout.stop index

/-- An address is looked up as the register that has it. -/
structure Addressed : Prop where
  found : ∀ address index, layout.indexOf? address = some index ↔
    (layout.minAddress ≤ address ∧ address ≤ layout.maxAddress) ∧
      (layout.register index).descriptor.address = address ∧
        layout.addressOf index = address
  missing : ∀ address, layout.indexOf? address = none ↔
    ¬ (layout.minAddress ≤ address ∧ address ≤ layout.maxAddress)

theorem start_succ (index next : Fin layout.size) (follows : (next : Nat) = index + 1) :
    layout.start next = layout.stop index := by
  rw [start, follows]
  exact Register.totalSize_take_succ layout.registers index

theorem stop_last (index : Fin layout.size) (last : (index : Nat) + 1 = layout.size) :
    layout.stop index = layout.totalBytes := by
  have whole := Register.totalSize_take_succ layout.registers index
  rw [last, show layout.size = layout.registers.length from rfl, List.take_length] at whole
  exact whole.symm

theorem start_lt_stop (index : Fin layout.size) :
    layout.start index < layout.stop index := by
  have width := (layout.register index).descriptor.kind.width_pos
  have fits := layout.width_le_size index
  rw [stop]
  omega

/-- Every byte before the end of a register lies in it or in an earlier one. -/
theorem exists_place_of_lt_stop {position : Nat} (index : Fin layout.size)
    (before : position < layout.stop index) :
    ∃ place, layout.start place ≤ position ∧ position < layout.stop place := by
  obtain ⟨value, bound⟩ := index
  induction value with
  | zero => exact ⟨⟨0, bound⟩, Nat.zero_le _, before⟩
  | succ value induction =>
      by_cases inside : layout.start ⟨value + 1, bound⟩ ≤ position
      · exact ⟨⟨value + 1, bound⟩, inside, before⟩
      · have earlier : value < layout.size := Nat.lt_of_succ_lt bound
        apply induction earlier
        rw [← layout.start_succ ⟨value, earlier⟩ ⟨value + 1, bound⟩ rfl]
        exact Nat.lt_of_not_le inside

theorem consecutive : layout.Consecutive where
  accumulated index := by
    have added := getElem?_offsetsFrom 0 layout.registers index
    rw [Nat.zero_add] at added
    exact added
  first index zero := by
    rw [start, zero]
    rfl
  next := layout.start_succ
  last := layout.stop_last
  sized _ := rfl
  nonempty := layout.start_lt_stop
  disjoint first second different position above below inside := by
    rcases layout.apart different with before | after
    · omega
    · omega
  covered position := by
    constructor
    · intro inside
      have positive := layout.size_pos
      let last : Fin layout.size := ⟨layout.size - 1, by omega⟩
      apply layout.exists_place_of_lt_stop last
      rw [layout.stop_last last (Nat.sub_add_cancel positive)]
      exact inside
    · intro placed
      obtain ⟨index, _, below⟩ := placed
      exact Nat.lt_of_lt_of_le below (layout.stop_le_totalBytes index)

theorem addressed : layout.Addressed where
  found address index := by
    rw [indexOf?_eq_some_iff, address_register]
    constructor
    · intro place
      exact ⟨(layout.exists_addressOf_iff address).mp ⟨index, place⟩, place, place⟩
    · intro described
      exact described.2.2
  missing _ := layout.indexOf?_eq_none_iff

end Layout

namespace Controller

variable {β : Type}

/-- The bytes of all registers, in address order, looked at one register at a time. -/
def spans? (controller : Controller β) : Option (List Bytes) :=
  (List.finRange controller.layout.size).mapM fun index =>
    controller.readSpan (controller.layout.start index)
      (controller.layout.stop index - controller.layout.start index)

theorem readSpan_place (controller : Controller β) (index : Fin controller.layout.size) :
    controller.readSpan (controller.layout.start index)
        (controller.layout.stop index - controller.layout.start index) =
      some (controller.stored index) := by
  rw [Layout.stop, Nat.add_sub_cancel_left]
  exact controller.store.slice?_eq_view (controller.layout.stop_le_totalBytes index)

theorem flatMap_stored (controller : Controller β) :
    (List.finRange controller.layout.size).flatMap controller.stored = controller.store.bytes := by
  have joined := Register.flatten_pieces controller.layout.registers controller.store.bytes
  refine joined.trans (List.take_of_length_le ?_)
  rw [controller.store.length_bytes]
  exact Nat.le_refl _

theorem flatten_spans? (controller : Controller β) :
    controller.spans?.map List.flatten = some controller.store.bytes := by
  have each : controller.spans? =
      some ((List.finRange controller.layout.size).map controller.stored) := by
    rw [spans?, funext controller.readSpan_place]
    exact List.mapM_pure
  rw [each, Option.map_some, ← List.flatMap_def, flatMap_stored]

/-- A look at the bytes is served as far as the store reaches. -/
theorem readSpan_eq_some_iff (controller : Controller β) {offset length : Nat}
    {part : Bytes} :
    controller.readSpan offset length = some part ↔
      offset + length ≤ controller.layout.totalBytes ∧
        part = (controller.store.bytes.drop offset).take length := by
  have whole := controller.store.length_bytes
  rw [readSpan, Store.slice?, Bytes.slice?, whole, Nat.add_sub_cancel_left]
  constructor
  · intro shown
    split at shown
    · rename_i inside
      cases shown
      exact ⟨inside.2, rfl⟩
    · cases shown
  · intro shown
    rw [if_pos ⟨Nat.le_add_right _ _, shown.1⟩, shown.2]

/-- What the places of the registers show of the bytes in the store. -/
structure ShownInPlaces [PinDriver β] (controller : Controller β) : Prop where
  joined : controller.spans?.map List.flatten = some controller.store.bytes
  read : ∀ address shown, (controller.read address).1 = .ok shown ↔
    ∃ index, controller.layout.indexOf? address = some index ∧
      shown = ((controller.read address).2.store.bytes.drop
          (controller.layout.start index)).take
        (controller.layout.stop index - controller.layout.start index)
  looked : ∀ limit, controller.layout.totalBytes < limit → ∀ offset length part,
    controller.readSpan offset length = some part ↔
      (offset + length < limit ∧ offset + length ≤ controller.layout.totalBytes) ∧
        part = (controller.store.bytes.drop offset).take length

theorem shownInPlaces [PinDriver β] (controller : Controller β) :
    controller.ShownInPlaces where
  joined := controller.flatten_spans?
  read address shown := by
    have ended := controller.read_ends address
    generalize controller.read address = outcome at ended ⊢
    cases ended with
    | invalidAddress outside =>
        rw [controller.layout.indexOf?_eq_none_iff.mpr outside]
        simp
    | @sampled index place =>
        rw [controller.layout.indexOf?_eq_some_iff.mpr place]
        simp only [Except.ok.injEq, Option.some.injEq, exists_eq_left', Layout.stop,
          Nat.add_sub_cancel_left]
        exact eq_comm
  looked limit fits offset length part := by
    rw [readSpan_eq_some_iff]
    constructor
    · intro shown
      exact ⟨⟨Nat.lt_of_le_of_lt shown.1 fits, shown.1⟩, shown.2⟩
    · intro shown
      exact ⟨shown.1.2, shown.2⟩

/-- The registers of an accepted layout divide the store among them without a gap or an
overlap, and an address is looked up as the register that has it.  So in every state of a
controller the bytes of the registers, joined in address order, are those of the store,
and a read answers with the bytes that the store then has in the place of the register.
A look at other bytes is served as far as the store reaches; a `limit` beyond the store,
such as the number of addresses of the machine, makes no difference. -/
theorem store_divided [PinDriver β] {registers : List Register} {layout : Layout}
    (accepted : Layout.ofRegisters? registers = .ok layout) :
    layout.registers = registers ∧ layout.Consecutive ∧ layout.Addressed ∧
      ∀ controller : Controller β, controller.layout = layout → controller.ShownInPlaces :=
  ⟨Layout.registers_of_accepted accepted, layout.consecutive, layout.addressed,
    fun controller _ => controller.shownInPlaces⟩

/-- In the nose-poke controller the version follows the complex configuration, the last
address has the last register, and no look reaches past the byte 110. -/
theorem store_divided_nosePoke :
    let controller : Controller SimulatedPins :=
      { layout := NosePoke.layout, store := .zeroed, pins := .fresh, signals := .clear,
        pulses := .none }
    Layout.ofRegisters? NosePoke.registers = .ok NosePoke.layout ∧
      NosePoke.layout.start ⟨3, by decide⟩ = NosePoke.layout.stop ⟨2, by decide⟩ ∧
      NosePoke.layout.indexOf? 43 = some ⟨11, by decide⟩ ∧
      controller.readSpan 109 2 = some [0, 0] ∧ controller.readSpan 110 2 ≠ some [0] := by
  intro controller
  have accepted : Layout.ofRegisters? NosePoke.registers = .ok NosePoke.layout := rfl
  obtain ⟨_, consecutive, addressed, shown⟩ := store_divided (β := SimulatedPins) accepted
  have looked := (shown controller rfl).looked (1 <<< 32) (by decide)
  refine ⟨accepted, consecutive.next _ _ rfl, (addressed.found _ _).mpr (by decide),
    (looked 109 2 _).mpr ⟨by decide, rfl⟩, ?_⟩
  intro past
  exact absurd ((looked 110 2 _).mp past).1.2 (by decide)

end Controller

end Instrument

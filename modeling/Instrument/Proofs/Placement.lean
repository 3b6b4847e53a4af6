import Instrument.Register.Layout

/-!
# Places of registers in a layout

The requirements on a layout give every register its address and its place:
addresses run on without a gap, registers lie back to back in the store, and
looking up an address undoes taking the address of a register.
-/

namespace Instrument

namespace Register

theorem totalSize_append (front back : List Register) :
    totalSize (front ++ back) = totalSize front + totalSize back := by
  induction front with
  | nil => simp [totalSize]
  | cons register front induction =>
      simp only [List.cons_append, totalSize, induction]
      omega

theorem totalSize_take_le (registers : List Register) {short long : Nat}
    (shorter : short ≤ long) :
    totalSize (registers.take short) ≤ totalSize (registers.take long) := by
  obtain ⟨extra, rfl⟩ := Nat.exists_eq_add_of_le shorter
  rw [List.take_add, totalSize_append]
  exact Nat.le_add_right _ _

theorem totalSize_take_succ (registers : List Register)
    (index : Fin registers.length) :
    totalSize (registers.take (index + 1)) =
      totalSize (registers.take index) + (registers.get index).size := by
  rw [List.take_succ_eq_append_getElem index.isLt, totalSize_append]
  simp [totalSize]

end Register

namespace Layout

theorem requirementsFrom_register
    {address : Nat} {registers : List Register}
    (checked : (requirementsFrom address registers).all (·.holds) = true)
    (index : Fin registers.length) :
    ((registers.get index).requirements (address + index)).all (·.holds) =
      true := by
  induction registers generalizing address with
  | nil => exact index.elim0
  | cons register rest induction =>
      rw [requirementsFrom, List.all_append, Bool.and_eq_true] at checked
      cases index using Fin.cases with
      | zero => exact checked.1
      | succ index =>
          have next := induction checked.2 index
          simpa [Nat.add_assoc, Nat.add_comm 1] using next

variable (layout : Layout)

theorem requirements_register (index : Fin layout.size) :
    ((layout.register index).requirements
      (layout.minAddress.toNat + index)).all (·.holds) = true := by
  have checked := layout.meets_requirements
  rw [requirements, List.all_cons, List.all_cons, List.all_cons] at checked
  simp only [Bool.and_eq_true] at checked
  exact requirementsFrom_register checked.2.2.2 index

theorem minAddress_add_size_le :
    layout.minAddress.toNat + layout.size ≤ 256 := by
  have checked := layout.meets_requirements
  rw [requirements, List.all_cons, List.all_cons, List.all_cons] at checked
  simp only [Bool.and_eq_true, decide_eq_true_eq] at checked
  have fits := checked.2.2.1
  change layout.minAddress.toNat + layout.size - 1 ≤ 255 at fits
  omega

theorem toNat_addressOf (index : Fin layout.size) :
    (layout.addressOf index).toNat = layout.minAddress.toNat + index := by
  have fits := layout.minAddress_add_size_le
  have bound := index.isLt
  simp only [addressOf, UInt8.toNat_add, UInt8.toNat_ofNat']
  omega

theorem toNat_maxAddress :
    layout.maxAddress.toNat = layout.minAddress.toNat + (layout.size - 1) := by
  have fits := layout.minAddress_add_size_le
  have positive := layout.size_pos
  simp only [maxAddress, UInt8.toNat_add, UInt8.toNat_ofNat']
  omega

/-- The address in the description of a register is the one its place gives it. -/
theorem address_register (index : Fin layout.size) :
    (layout.register index).descriptor.address = layout.addressOf index := by
  have checked := layout.requirements_register index
  rw [Register.requirements, List.all_cons, Bool.and_eq_true] at checked
  apply UInt8.toNat_inj.mp
  rw [toNat_addressOf]
  simpa using checked.1

theorem indexOf?_eq_some_iff {address : UInt8} {index : Fin layout.size} :
    layout.indexOf? address = some index ↔ layout.addressOf index = address := by
  have place := layout.toNat_addressOf index
  constructor
  · intro found
    rw [indexOf?] at found
    split at found
    · rename_i below
      cases found
      have reached := UInt8.le_iff_toNat_le.mp below.1
      apply UInt8.toNat_inj.mp
      simp only at place
      omega
    · cases found
  · intro same
    subst same
    have bound := index.isLt
    have below : layout.minAddress ≤ layout.addressOf index ∧
        (layout.addressOf index).toNat - layout.minAddress.toNat <
          layout.size := by
      constructor
      · apply UInt8.le_iff_toNat_le.mpr
        omega
      · omega
    rw [indexOf?, dif_pos below, Option.some.injEq]
    apply Fin.ext
    simp only
    omega

@[simp] theorem indexOf?_addressOf (index : Fin layout.size) :
    layout.indexOf? (layout.addressOf index) = some index :=
  layout.indexOf?_eq_some_iff.mpr rfl

theorem addressOf_injective {first second : Fin layout.size}
    (same : layout.addressOf first = layout.addressOf second) :
    first = second := by
  have found := layout.indexOf?_eq_some_iff.mpr same
  rw [indexOf?_addressOf, Option.some.injEq] at found
  exact found.symm

/-- The addresses that have a register are those from the lowest to the highest. -/
theorem exists_addressOf_iff (address : UInt8) :
    (∃ index, layout.addressOf index = address) ↔
      layout.minAddress ≤ address ∧ address ≤ layout.maxAddress := by
  have highest := layout.toNat_maxAddress
  have positive := layout.size_pos
  constructor
  · intro served
    obtain ⟨index, rfl⟩ := served
    have place := layout.toNat_addressOf index
    have bound := index.isLt
    constructor
    · apply UInt8.le_iff_toNat_le.mpr
      omega
    · apply UInt8.le_iff_toNat_le.mpr
      omega
  · intro inside
    obtain ⟨above, below⟩ := inside
    have lower := UInt8.le_iff_toNat_le.mp above
    have upper := UInt8.le_iff_toNat_le.mp below
    refine ⟨⟨address.toNat - layout.minAddress.toNat, by omega⟩, ?_⟩
    apply UInt8.toNat_inj.mp
    rw [toNat_addressOf]
    exact Nat.add_sub_cancel' lower

theorem indexOf?_eq_none_iff {address : UInt8} :
    layout.indexOf? address = none ↔
      ¬ (layout.minAddress ≤ address ∧ address ≤ layout.maxAddress) := by
  rw [← exists_addressOf_iff]
  constructor
  · intro missing served
    obtain ⟨index, rfl⟩ := served
    rw [indexOf?_addressOf] at missing
    cases missing
  · intro missing
    cases found : layout.indexOf? address with
    | none => rfl
    | some index =>
        exact (missing ⟨index, layout.indexOf?_eq_some_iff.mp found⟩).elim

theorem register_eq_of_address {register : Register}
    (member : register ∈ layout.registers) {index : Fin layout.size}
    (same : register.descriptor.address = layout.addressOf index) :
    layout.register index = register := by
  obtain ⟨other, found⟩ := List.get_of_mem member
  have place : layout.addressOf other = layout.addressOf index := by
    rw [← layout.address_register other, ← same, ← found]
    rfl
  rw [← layout.addressOf_injective place, ← found]
  rfl

theorem inside_of_mem {register : Register}
    (member : register ∈ layout.registers) :
    layout.minAddress ≤ register.descriptor.address ∧
      register.descriptor.address ≤ layout.maxAddress := by
  obtain ⟨index, found⟩ := List.get_of_mem member
  apply (layout.exists_addressOf_iff _).mp
  refine ⟨index, ?_⟩
  rw [← layout.address_register index, ← found]
  rfl

theorem stop_le_totalBytes (index : Fin layout.size) :
    layout.stop index ≤ layout.totalBytes := by
  have whole := Register.totalSize_take_le layout.registers
    (Nat.succ_le_of_lt index.isLt)
  rw [Register.totalSize_take_succ layout.registers index,
    show layout.size = layout.registers.length from rfl,
    List.take_length] at whole
  exact whole

theorem stop_le_start {first second : Fin layout.size} (before : first < second) :
    layout.stop first ≤ layout.start second := by
  have next := Register.totalSize_take_le layout.registers
    (Nat.succ_le_of_lt before)
  rw [Register.totalSize_take_succ layout.registers first] at next
  exact next

/-- Two registers share no byte of the store. -/
theorem apart {first second : Fin layout.size} (different : first ≠ second) :
    layout.stop first ≤ layout.start second ∨
      layout.stop second ≤ layout.start first := by
  rcases Nat.lt_or_gt_of_ne (Fin.val_ne_of_ne different) with before | after
  · exact .inl (layout.stop_le_start before)
  · exact .inr (layout.stop_le_start after)

end Layout

end Instrument

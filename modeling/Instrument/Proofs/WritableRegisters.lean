import Instrument.Proofs.ElementValues
import Instrument.Proofs.Requirements
import Instrument.Proofs.RoundedIntegers
import Instrument.Proofs.Runs

/-!
# Registers that can be written

The write flag of a register agrees with its behaviour alone.  Whether a write can ever
be accepted depends on its rule as well: on which elements the kind of the register has,
and for a pulse on which lengths a pulse can have.  A register whose rule nothing meets
carries the flag and refuses every write.
-/

namespace Instrument

namespace Rule

/-- Some payload of elements of a kind meets the rule.  `size` is that of the payload. -/
def Satisfiable (rule : Rule) (kind : Element.Kind) (size : Nat) : Prop :=
  match rule with
  | .any => True
  | .within _ => kind.isInteger = true
  | .oneOf choice =>
    kind.isInteger = true ∧ ∃ value ∈ choice.values, choice.field.covers value = true ∧
      value < 1 <<< (8 * kind.width)
  | .between low high =>
    match kind with
    | .float =>
      max (Binary32.rounded low) (-Binary32.largest) ≤
        min (Binary32.rounded high) Binary32.largest
    | _ => max low kind.least ≤ min high kind.greatest
  | .custom check => ∃ payload : Bytes, payload.length = size ∧ check payload = true

/-- The greatest length in milliseconds of a pulse that an element can ask for. -/
def longest (kind : Element.Kind) : Int := min 4294967295 kind.greatest

/-- Some element that asks for a pulse meets the rule. -/
def AdmitsPulse (rule : Rule) (kind : Element.Kind) : Prop :=
  match rule with
  | .any => 1 ≤ longest kind
  | .within field => ∃ bit, field.bits.testBit bit = true ∧ ((1 <<< bit : Nat) : Int) ≤ longest kind
  | .oneOf choice =>
    ∃ value ∈ choice.values, choice.field.covers value = true ∧ 1 ≤ value ∧
      (value : Int) ≤ longest kind
  | .between low high => max low 1 ≤ min high (longest kind)
  | .custom check =>
    ∃ duration : Nat, 1 ≤ duration ∧ (duration : Int) ≤ longest kind ∧
      check (Bytes.littleEndian kind.width duration) = true

theorem exists_integer_between_iff {kind : Element.Kind} (integral : kind.isInteger = true)
    (low high : Int) :
    (∃ element : Bytes, element.length = kind.width ∧
        elementBetween kind low high element = true) ↔
      max low kind.least ≤ min high kind.greatest := by
  constructor
  · intro between
    obtain ⟨element, _, between⟩ := between
    obtain ⟨value, read⟩ := Element.Kind.exists_integer?_of_isInteger integral element
    have bounds := Element.Kind.integer?_bounds read
    simp only [elementBetween, read, decide_eq_true_eq] at between
    omega
  · intro room
    refine ⟨kind.encoded (max low kind.least), kind.length_encoded _, ?_⟩
    have read := @Element.Kind.integer?_encoded kind (max low kind.least) (by omega) (by omega)
    simp only [elementBetween, read, decide_eq_true_eq]
    omega

theorem exists_float_between_iff (low high : Int) :
    (∃ element : Bytes, element.length = Element.Kind.float.width ∧
        elementBetween .float low high element = true) ↔
      max (Binary32.rounded low) (-Binary32.largest) ≤
        min (Binary32.rounded high) Binary32.largest := by
  rw [← Binary32.exists_liesBetween_iff]
  constructor
  · intro between
    obtain ⟨element, _, between⟩ := between
    exact ⟨_, between⟩
  · intro between
    obtain ⟨number, between⟩ := between
    refine ⟨Bytes.littleEndian 4 number.pattern.toNat, Bytes.length_littleEndian _ _, ?_⟩
    have small : number.pattern.toNat < 1 <<< (8 * Element.Kind.float.width) :=
      number.pattern.toNat_lt
    have bits : Element.Kind.float.bits (Bytes.littleEndian 4 number.pattern.toNat) =
        number.pattern.toNat :=
      (Element.Kind.float.bits_littleEndian _).trans (Nat.mod_eq_of_lt small)
    have same : Element.Kind.float.float? (Bytes.littleEndian 4 number.pattern.toNat) =
        some number := by
      rw [Element.Kind.float?, bits, UInt32.ofNat_toNat]
    have none : Element.Kind.float.integer? (Bytes.littleEndian 4 number.pattern.toNat) =
      none := rfl
    simp only [elementBetween, none, same, Option.any_some]
    exact between

theorem exists_accepted_iff_satisfiable (rule : Rule) (kind : Element.Kind) {count : Nat}
    (positive : 0 < count) :
    (∃ payload : Bytes, payload.length = count * kind.width ∧
        rule.accepts kind payload = true) ↔
      rule.Satisfiable kind (count * kind.width) := by
  cases rule with
  | custom check => exact Iff.rfl
  | any =>
      rw [exists_accepted_iff rfl positive]
      exact iff_of_true ⟨kind.encoded 0, kind.length_encoded 0, rfl⟩ trivial
  | within field =>
      rw [exists_accepted_iff rfl positive, Satisfiable]
      constructor
      · intro passing
        obtain ⟨element, _, passes⟩ := passing
        exact (Bool.and_eq_true_iff.mp passes).1
      · intro integral
        refine ⟨kind.encoded 0, kind.length_encoded 0, ?_⟩
        rw [integral, Bool.true_and, BitField.covers, kind.bits_encoded]
        simp
  | oneOf choice =>
      rw [exists_accepted_iff rfl positive, Satisfiable]
      constructor
      · intro passing
        obtain ⟨element, _, passes⟩ := passing
        simp only [FieldChoice.admits, Bool.and_eq_true, List.contains_iff_mem] at passes
        obtain ⟨integral, covered, listed⟩ := passes
        exact ⟨integral, _, listed, covered, kind.bits_lt element⟩
      · intro admitted
        obtain ⟨integral, value, listed, covered, small⟩ := admitted
        refine ⟨Bytes.littleEndian kind.width value, Bytes.length_littleEndian _ _, ?_⟩
        rw [integral, Bool.true_and, kind.bits_littleEndian, Nat.mod_eq_of_lt small,
          FieldChoice.admits, covered, Bool.true_and, List.contains_iff_mem]
        exact listed
  | between low high =>
      rw [exists_accepted_iff rfl positive]
      cases kind with
      | float => exact exists_float_between_iff low high
      | unsigned | signed => exact exists_integer_between_iff rfl low high

/-- A pulse is asked for by a number that is positive and not past the longest pulse. -/
theorem exists_pulse_iff (rule : Rule) (kind : Element.Kind) :
    (∃ payload : Bytes, payload.length = kind.width ∧ rule.accepts kind payload = true ∧
        ∃ value, kind.integer? payload = some value ∧ 1 ≤ value ∧ value ≤ 4294967295) ↔
      ∃ duration : Nat, 1 ≤ duration ∧ (duration : Int) ≤ longest kind ∧
        rule.accepts kind (Bytes.littleEndian kind.width duration) = true := by
  constructor
  · intro asked
    obtain ⟨payload, sized, passes, value, read, positive, bounded⟩ := asked
    obtain ⟨duration, rfl⟩ := Int.eq_ofNat_of_zero_le (by omega : 0 ≤ value)
    have bounds := Element.Kind.integer?_bounds read
    have same := Element.Kind.littleEndian_bits sized
    rw [Element.Kind.bits_of_integer? read] at same
    rw [← same] at passes
    refine ⟨duration, by omega, ?_, passes⟩
    rw [longest]
    omega
  · intro asked
    obtain ⟨duration, positive, bounded, passes⟩ := asked
    rw [longest] at bounded
    exact ⟨_, Bytes.length_littleEndian _ _, passes, duration,
      Element.Kind.integer?_littleEndian (by omega), by omega, by omega⟩

section Lengths

variable {kind : Element.Kind} {duration : Nat}

theorem isInteger_of_le_longest (bounded : (duration : Int) ≤ longest kind) :
    kind.isInteger = true := by
  cases kind with
  | unsigned | signed => rfl
  | float =>
      simp only [longest, Element.Kind.greatest] at bounded
      omega

theorem bits_of_le_longest (bounded : (duration : Int) ≤ longest kind) :
    kind.bits (Bytes.littleEndian kind.width duration) = duration := by
  have limit := kind.greatest_lt
  rw [longest] at bounded
  rw [kind.bits_littleEndian]
  exact Nat.mod_eq_of_lt (by omega)

end Lengths

theorem covers_one_shiftLeft {field : BitField} {bit : Nat}
    (up : field.bits.testBit bit = true) : field.covers (1 <<< bit) = true := by
  rw [BitField.covers_iff]
  intro place raised
  rw [Nat.one_shiftLeft, Nat.testBit_two_pow, decide_eq_true_eq] at raised
  rw [← raised]
  exact up

/-- A pulse within a field can be as short as one bit of the field. -/
theorem exists_pulse_within_iff (field : BitField) (limit : Int) :
    (∃ duration : Nat, 1 ≤ duration ∧ (duration : Int) ≤ limit ∧
        field.covers duration = true) ↔
      ∃ bit, field.bits.testBit bit = true ∧ ((1 <<< bit : Nat) : Int) ≤ limit := by
  constructor
  · intro asked
    obtain ⟨duration, positive, bounded, covered⟩ := asked
    obtain ⟨bit, up⟩ := Nat.exists_testBit_of_ne_zero (Nat.ne_of_gt positive)
    have least := Nat.ge_two_pow_of_testBit up
    rw [← Nat.one_shiftLeft] at least
    exact ⟨bit, BitField.covers_iff.mp covered bit up, by omega⟩
  · intro asked
    obtain ⟨bit, up, bounded⟩ := asked
    refine ⟨1 <<< bit, ?_, bounded, covers_one_shiftLeft up⟩
    rw [Nat.one_shiftLeft]
    exact Nat.two_pow_pos bit

theorem exists_pulse_iff_admitsPulse (rule : Rule) (kind : Element.Kind) :
    (∃ duration : Nat, 1 ≤ duration ∧ (duration : Int) ≤ longest kind ∧
        rule.accepts kind (Bytes.littleEndian kind.width duration) = true) ↔
      rule.AdmitsPulse kind := by
  have single : ∀ {check}, rule.elementCheck? kind = some check → ∀ duration,
      rule.accepts kind (Bytes.littleEndian kind.width duration) =
        check (Bytes.littleEndian kind.width duration) :=
    fun elementwise _ => accepts_of_length elementwise (Bytes.length_littleEndian _ _)
  cases rule with
  | custom check => exact Iff.rfl
  | any =>
      simp only [single rfl, AdmitsPulse, and_true]
      constructor
      · intro asked
        omega
      · intro room
        exact ⟨1, Nat.le_refl 1, room⟩
  | within field =>
      rw [AdmitsPulse, ← exists_pulse_within_iff]
      apply exists_congr
      intro duration
      apply and_congr_right
      intro _
      apply and_congr_right
      intro bounded
      rw [single rfl, isInteger_of_le_longest bounded, bits_of_le_longest bounded, Bool.true_and]
  | oneOf choice =>
      constructor
      · intro asked
        obtain ⟨duration, positive, bounded, passes⟩ := asked
        rw [single rfl, bits_of_le_longest bounded, isInteger_of_le_longest bounded,
          Bool.true_and, FieldChoice.admits, Bool.and_eq_true, List.contains_iff_mem] at passes
        exact ⟨duration, passes.2, passes.1, positive, bounded⟩
      · intro asked
        obtain ⟨duration, listed, covered, positive, bounded⟩ := asked
        refine ⟨duration, positive, bounded, ?_⟩
        rw [single rfl, bits_of_le_longest bounded, isInteger_of_le_longest bounded,
          Bool.true_and, FieldChoice.admits, covered, Bool.true_and, List.contains_iff_mem]
        exact listed
  | between low high =>
      have passes : ∀ {duration : Nat}, (duration : Int) ≤ longest kind →
          (Rule.between low high).accepts kind (Bytes.littleEndian kind.width duration) =
            decide (low ≤ (duration : Int) ∧ (duration : Int) ≤ high) := by
        intro duration bounded
        rw [longest] at bounded
        rw [single rfl]
        simp only [elementBetween, Element.Kind.integer?_littleEndian
          (by omega : (duration : Int) ≤ kind.greatest)]
      rw [AdmitsPulse]
      constructor
      · intro asked
        obtain ⟨duration, positive, bounded, passed⟩ := asked
        rw [passes bounded, decide_eq_true_eq] at passed
        omega
      · intro room
        have shortest : ((max low 1).toNat : Int) = max low 1 := Int.toNat_of_nonneg (by omega)
        refine ⟨(max low 1).toNat, by omega, by omega, ?_⟩
        rw [passes (by omega), decide_eq_true_eq]
        omega

end Rule

/-- Whether the rule of a register leaves it a payload to accept. -/
def Register.Writable (register : Register) : Prop :=
  match register.behaviour with
  | .pins _ | .latch _ | .constant => False
  | .setting rule | .drive rule _ => rule.Satisfiable register.descriptor.kind register.size
  | .pulse rule _ => rule.AdmitsPulse register.descriptor.kind
  | .counter _ resettable => resettable = true

theorem Register.Writable.acceptsWrites {register : Register} (writable : register.Writable) :
    register.behaviour.acceptsWrites = true := by
  rw [Writable] at writable
  cases behaviour : register.behaviour with
  | pins | latch | constant =>
      rw [behaviour] at writable
      exact writable.elim
  | setting | drive | pulse => rfl
  | counter index resettable =>
      rw [behaviour] at writable
      exact writable

namespace Controller

theorem Acceptable.none {pulses : Pulses} {register : Register} {payload : Bytes}
    (acceptable : Acceptable pulses register payload) :
    Acceptable Pulses.none register payload := by
  simp only [Acceptable] at acceptable ⊢
  cases behaviour : register.behaviour with
  | pins | latch | constant =>
      rw [behaviour] at acceptable
      exact acceptable.elim
  | setting | drive | counter =>
      rw [behaviour] at acceptable
      exact acceptable
  | pulse rule line =>
      simp only [behaviour] at acceptable ⊢
      exact ⟨acceptable.1, acceptable.2.1, .inl (by decide)⟩

theorem exists_acceptable_iff_writable (layout : Layout) (index : Fin layout.size) :
    (∃ payload : Bytes, payload.length = (layout.register index).size ∧
        Acceptable Pulses.none (layout.register index) payload) ↔
      (layout.register index).Writable := by
  simp only [Acceptable, Register.Writable]
  cases behaviour : (layout.register index).behaviour with
  | pins | latch | constant => simp
  | setting rule | drive rule =>
      exact Rule.exists_accepted_iff_satisfiable _ _ (layout.count_pos index)
  | pulse rule line =>
      simp only
      rw [layout.size_of_pulse behaviour, ← Rule.exists_pulse_iff_admitsPulse,
        ← Rule.exists_pulse_iff]
      have free : Pulses.none.size < Pulses.capacity := by decide
      simp only [free, true_or, and_true]
  | counter counter resettable =>
      constructor
      · intro acceptable
        obtain ⟨_, _, resettable, _⟩ := acceptable
        exact resettable
      · intro resettable
        refine ⟨Bytes.zeros _, List.length_replicate, resettable, ?_⟩
        intro byte member
        exact List.eq_of_mem_replicate member

variable {β : Type}

theorem bind_totalBytes (layout : Layout) (pins : β) (signals : Signals) :
    bind layout layout.totalBytes pins signals =
      .ok { layout, store := .zeroed, pins, signals, pulses := .none } :=
  (bind_eq layout layout.totalBytes pins signals).trans (if_pos rfl)

variable [PinDriver β]

/-- Some payload is accepted at an address in some state that the controller reaches. -/
def EverAccepts (layout : Layout) (pins : β) (address : UInt8) : Prop :=
  ∃ contents controller, Started layout pins contents controller ∧
    ∃ operations payload, ((controller.run operations).write address payload).1 = .ok ()

theorem everAccepts_iff_writable (layout : Layout) (index : Fin layout.size) (pins : β) :
    EverAccepts layout pins (layout.addressOf index) ↔ (layout.register index).Writable := by
  rw [← exists_acceptable_iff_writable]
  constructor
  · intro accepts
    obtain ⟨contents, controller, started, operations, payload, accepted⟩ := accepts
    have same := (layout_run controller operations).trans started.layout_eq
    have member : layout.register index ∈ (controller.run operations).layout.registers := by
      rw [same]
      exact List.get_mem _ _
    rw [← layout.address_register index] at accepted
    obtain ⟨_, refused⟩ | ⟨_, _, refused⟩ | ⟨sized, acceptable, _⟩ :=
      write_answer_cases _ payload member accepted
    · cases refused
    · cases refused
    · exact ⟨payload, sized, acceptable.none⟩
  · intro acceptable
    obtain ⟨payload, sized, acceptable⟩ := acceptable
    let controller : Controller β :=
      { layout, store := .zeroed, pins, signals := .clear, pulses := .none }
    refine ⟨[], controller, .bind (bind_totalBytes layout pins .clear), [], payload, ?_⟩
    rw [run_nil, ← layout.address_register index]
    exact ((controller.write_answered _ payload).ok _ (List.get_mem _ _) rfl sized).mpr
      acceptable

/-- The write flag of a register says how it behaves.  A write can be accepted, in some
state that is reached, exactly if the rule of the register leaves a payload for it; such a
register has the flag. -/
theorem writable_registers (layout : Layout) (index : Fin layout.size) (pins : β) :
    ((layout.register index).descriptor.access.write = true ↔
        (layout.register index).behaviour.acceptsWrites = true) ∧
      (EverAccepts layout pins (layout.addressOf index) ↔ (layout.register index).Writable) ∧
      ((layout.register index).Writable →
        (layout.register index).descriptor.access.write = true) := by
  have flag := layout.write_eq_acceptsWrites index
  refine ⟨by rw [flag], everAccepts_iff_writable layout index pins, ?_⟩
  intro writable
  rw [flag]
  exact writable.acceptsWrites

/-- A layout of one register, for whose values an empty range is left. -/
def emptyRange : Layout where
  registers := [{
    descriptor := {
      address := 0, name := "HOLD", kind := .unsigned .one
      access := { read := true, write := true } }
    behaviour := .setting (.between 1 0) }]
  meets_requirements := rfl

theorem emptyRange_flagged_unwritable :
    (emptyRange.register ⟨0, by decide⟩).descriptor.access.write = true ∧
      (emptyRange.register ⟨0, by decide⟩).behaviour.acceptsWrites = true ∧
      ∀ pins : SimulatedPins, ¬ EverAccepts emptyRange pins 0 := by
  refine ⟨rfl, rfl, ?_⟩
  intro pins
  rw [show (0 : UInt8) = emptyRange.addressOf ⟨0, by decide⟩ from rfl, everAccepts_iff_writable]
  -- No element is at least one and at most zero.
  have room : ¬ max 1 (Element.Kind.least (.unsigned .one)) ≤
      min 0 (Element.Kind.greatest (.unsigned .one)) := by decide
  exact room

end Controller

end Instrument

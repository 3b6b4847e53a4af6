import Instrument.Proofs.Placement

/-!
# What the requirements on a layout give its registers

Every register has room for its first element, and what a behaviour asks for can be
looked up by the behaviour: how many pins or lines it may have, and which counter.
-/

namespace Instrument

namespace Layout

variable (layout : Layout) (index : Fin layout.size)

theorem count_pos : 0 < (layout.register index).descriptor.count := by
  have checked := layout.requirements_register index
  simp only [Register.requirements, List.all_cons, Bool.and_eq_true, decide_eq_true_eq] at checked
  exact checked.2.1

theorem width_le_size :
    (layout.register index).descriptor.kind.width ≤ (layout.register index).size :=
  Nat.le_mul_of_pos_left _ (layout.count_pos index)

theorem behaviourRequirements_register :
    (layout.register index).behaviourRequirements.all (·.holds) = true := by
  have checked := layout.requirements_register index
  simp only [Register.requirements, List.all_cons, Bool.and_eq_true] at checked
  exact checked.2.2.2.2

variable {layout index}

theorem pins_length_le {inputs : List Pin}
    (behaviour : (layout.register index).behaviour = .pins inputs) :
    inputs.length ≤ 8 * (layout.register index).descriptor.kind.width := by
  have checked := layout.behaviourRequirements_register index
  simp only [Register.behaviourRequirements, behaviour, List.all_cons, Bool.and_eq_true,
    decide_eq_true_eq] at checked
  exact checked.2.1

/-- A register over a range of the latch has the size of the range, which lies inside. -/
theorem latch_fits {window : LatchWindow}
    (behaviour : (layout.register index).behaviour = .latch window) :
    window.length = (layout.register index).size ∧ window.stop ≤ Signals.latchSize := by
  have checked := layout.behaviourRequirements_register index
  simpa only [Register.behaviourRequirements, behaviour, List.all_cons, List.all_nil,
    Bool.and_true, Bool.and_eq_true, beq_iff_eq, decide_eq_true_eq] using checked

theorem lines_length_le {rule : Rule} {lines : List OutputLine}
    (behaviour : (layout.register index).behaviour = .drive rule lines) :
    lines.length ≤ 8 * (layout.register index).descriptor.kind.width := by
  have checked := layout.behaviourRequirements_register index
  simp only [Register.behaviourRequirements, behaviour, List.all_cons, Bool.and_eq_true,
    decide_eq_true_eq] at checked
  exact checked.2.1

theorem counter_lt {counter : Nat} {resettable : Bool}
    (behaviour : (layout.register index).behaviour = .counter counter resettable) :
    counter < Signals.counterCount := by
  have checked := layout.behaviourRequirements_register index
  simp only [Register.behaviourRequirements, behaviour, List.all_cons, Bool.and_eq_true,
    decide_eq_true_eq] at checked
  exact checked.2.1

theorem size_of_pulse {rule : Rule} {line : OutputLine}
    (behaviour : (layout.register index).behaviour = .pulse rule line) :
    (layout.register index).size = (layout.register index).descriptor.kind.width := by
  have checked := layout.behaviourRequirements_register index
  simp only [Register.behaviourRequirements, behaviour, List.all_cons, Bool.and_eq_true,
    Descriptor.isArray, Bool.not_eq_true', decide_eq_false_iff_not] at checked
  have single : (layout.register index).descriptor.count = 1 := by
    have positive := layout.count_pos index
    omega
  rw [Register.size, Descriptor.size, single, Nat.one_mul]

theorem write_eq_acceptsWrites (layout : Layout) (index : Fin layout.size) :
    (layout.register index).descriptor.access.write =
      (layout.register index).behaviour.acceptsWrites := by
  have checked := layout.requirements_register index
  simp only [Register.requirements, List.all_cons, Bool.and_eq_true, beq_iff_eq] at checked
  exact checked.2.2.2.1

end Layout

end Instrument

import Instrument.Pin.Setup
import Instrument.Proofs.IndependentPins
import Mathlib.Data.List.Basic

/-!
# The calls of a set-up

A set-up makes the calls of one plan, fixed by the tables of inputs and outputs, and stops
after the first that the driver refuses.  What a recorder keeps of it is therefore the plan,
or the part of it that ends with the refused call.
-/

namespace Instrument

namespace Attempt

variable {ε σ α γ : Type}

theorem andThen_assoc (attempt : Attempt ε σ) (next last : σ → Attempt ε σ) :
    (attempt.andThen next).andThen last =
      attempt.andThen fun state => (next state).andThen last := by
  obtain ⟨outcome, state⟩ := attempt
  cases outcome <;> rfl

theorem andThen_accepted_right (attempt : Attempt ε σ) : attempt.andThen accepted = attempt := by
  obtain ⟨outcome, state⟩ := attempt
  cases outcome <;> rfl

theorem forEach_append (step : σ → α → Attempt ε σ) (front back : List α) (state : σ) :
    forEach step (front ++ back) state =
      (forEach step front state).andThen (forEach step back) := by
  induction front generalizing state with
  | nil => rfl
  | cons item rest induction =>
      have later : (forEach step (rest ++ back)) =
          fun state => (forEach step rest state).andThen (forEach step back) :=
        funext induction
      rw [List.cons_append, forEach, later, forEach, andThen_assoc]

theorem forEach_flatMap (step : σ → γ → Attempt ε σ) (expand : α → List γ) (items : List α)
    (state : σ) :
    forEach step (items.flatMap expand) state =
      forEach (fun state item => forEach step (expand item) state) items state := by
  induction items generalizing state with
  | nil => rfl
  | cons item rest induction =>
      rw [List.flatMap_cons, forEach_append, funext induction, forEach]

theorem forEach_map (step : σ → γ → Attempt ε σ) (image : α → γ) (items : List α) (state : σ) :
    forEach step (items.map image) state =
      forEach (fun state item => step state (image item)) items state := by
  induction items generalizing state with
  | nil => rfl
  | cons item rest induction => rw [List.map_cons, forEach, forEach, funext induction]

end Attempt

def InputSetup.call (input : InputSetup) : PinCall :=
  .input input.pin input.pull input.sense

/-- The call that arms the interrupt of an input, with the pins of all inputs on its line. -/
def InputSetup.armCall? (inputs : List InputSetup) (input : InputSetup) : Option PinCall :=
  input.interrupt.map fun interrupt =>
    .arm input.pin.port interrupt.line
      ⟨interrupt.priority, sharedMask inputs input.pin.port interrupt.line, interrupt.inverted⟩

/-- An output is configured and at once driven to its initial state. -/
def OutputSetup.calls (output : OutputSetup) : List PinCall :=
  [.output output.pin output.wiring output.readback,
    if output.line.level output.initiallyActive then .set output.pin else .clear output.pin]

def inputCalls (inputs : List InputSetup) : List PinCall := inputs.map (·.call)

def armCalls (inputs : List InputSetup) : List PinCall := inputs.filterMap (·.armCall? inputs)

def outputCalls (outputs : List OutputSetup) : List PinCall := outputs.flatMap (·.calls)

/-- The plan of a set-up. -/
def setUpCalls (inputs : List InputSetup) (outputs : List OutputSetup) : List PinCall :=
  inputCalls inputs ++ armCalls inputs ++ outputCalls outputs

/-- Calls of a plan made in order: all of them, each accepted, or those up to and including
the first that was refused. -/
inductive Performed {β : Type} [PinDriver β] (pins : β) (plan : List PinCall) :
    List PinCall → Attempt PinError β → Prop where
  | whole {after : β} :
      Attempt.forEach PinCall.make plan pins = .accepted after →
      Performed pins plan plan (.accepted after)
  | upTo {front rest : List PinCall} {call : PinCall} {middle after : β} {reason : PinError} :
      plan = front ++ call :: rest →
      Attempt.forEach PinCall.make front pins = .accepted middle →
      call.make middle = .refused reason after →
      Performed pins plan (front ++ [call]) (.refused reason after)

section AnyDriver

variable {β : Type} [PinDriver β]

theorem Performed.made_isPrefix {pins : β} {plan made : List PinCall}
    {outcome : Attempt PinError β} (performed : Performed pins plan made outcome) :
    made <+: plan := by
  cases performed with
  | whole => exact List.prefix_rfl
  | @upTo front rest call _ _ _ split =>
      refine ⟨rest, ?_⟩
      rw [split, List.append_assoc, List.singleton_append]

theorem forEach_make_cons {pins middle : β} {call : PinCall}
    (accepted : call.make pins = .accepted middle) (rest : List PinCall) :
    Attempt.forEach PinCall.make (call :: rest) pins = Attempt.forEach PinCall.make rest middle := by
  rw [Attempt.forEach, accepted]
  rfl

theorem Performed.cons {pins middle : β} {call : PinCall} {rest made : List PinCall}
    {outcome : Attempt PinError β} (accepted : call.make pins = .accepted middle)
    (performed : Performed middle rest made outcome) :
    Performed pins (call :: rest) (call :: made) outcome := by
  have onward := forEach_make_cons accepted
  cases performed with
  | whole later => exact .whole ((onward rest).trans later)
  | @upTo front back refused before after reason split earlier refusal =>
      have longer : call :: rest = (call :: front) ++ refused :: back := by
        rw [split]
        rfl
      exact .upTo longer ((onward front).trans earlier) refusal

theorem forEach_call_armCall? (inputs : List InputSetup) (pins : β) (input : InputSetup) :
    Attempt.forEach PinCall.make (input.armCall? inputs).toList pins =
      armInput inputs pins input := by
  rw [InputSetup.armCall?, armInput]
  cases input.interrupt with
  | none => rfl
  | some interrupt => exact Attempt.andThen_accepted_right _

theorem forEach_calls (pins : β) (output : OutputSetup) :
    Attempt.forEach PinCall.make output.calls pins = setUpOutput pins output := by
  rw [OutputSetup.calls, setUpOutput, Attempt.forEach]
  congr 1
  funext configured
  rw [PinDriver.drive, PinDriver.write, Attempt.forEach]
  split <;> rfl

/-- A set-up makes the calls of its plan, in order and as long as they are accepted. -/
theorem setUpPins_eq_forEach (pins : β) (inputs : List InputSetup) (outputs : List OutputSetup) :
    setUpPins pins inputs outputs =
      Attempt.forEach PinCall.make (setUpCalls inputs outputs) pins := by
  have arms : Attempt.forEach PinCall.make (armCalls inputs) =
      Attempt.forEach (σ := β) (armInput inputs) inputs := by
    funext pins
    rw [armCalls, List.filterMap_eq_flatMap_toList, Attempt.forEach_flatMap]
    simp only [forEach_call_armCall?]
  have drives : Attempt.forEach PinCall.make (outputCalls outputs) =
      Attempt.forEach (σ := β) setUpOutput outputs := by
    funext pins
    rw [outputCalls, Attempt.forEach_flatMap]
    simp only [forEach_calls]
  rw [setUpCalls, Attempt.forEach_append, Attempt.forEach_append, arms, drives, inputCalls,
    Attempt.forEach_map, Attempt.andThen_assoc]
  rfl

theorem make_recorded (recorded : RecordedPins β) (call : PinCall) :
    call.make recorded =
      ((call.make recorded.pins).1, ⟨(call.make recorded.pins).2, recorded.calls ++ [call]⟩) := by
  cases call <;> rfl

/-- A recorder keeps the calls that were made and is in nobody's way. -/
theorem forEach_make_recorded (recorded : RecordedPins β) (plan : List PinCall) :
    ∃ made, Performed recorded.pins plan made (Attempt.forEach PinCall.make plan recorded.pins) ∧
      Attempt.forEach PinCall.make plan recorded =
        ((Attempt.forEach PinCall.make plan recorded.pins).1,
          ⟨(Attempt.forEach PinCall.make plan recorded.pins).2, recorded.calls ++ made⟩) := by
  induction plan generalizing recorded with
  | nil =>
      refine ⟨[], .whole rfl, ?_⟩
      rw [List.append_nil]
      rfl
  | cons call rest induction =>
      have here := make_recorded recorded call
      cases ended : call.make recorded.pins with
      | mk outcome middle =>
          rw [ended] at here
          cases outcome with
          | error reason =>
              have first : Performed recorded.pins (call :: rest) ([] ++ [call])
                  (.refused reason middle) := .upTo rfl rfl ended
              refine ⟨[call], ?_, ?_⟩
              · rw [Attempt.forEach, ended]
                exact first
              · rw [Attempt.forEach, here, Attempt.forEach, ended]
                rfl
          | ok _ =>
              obtain ⟨made, performed, recording⟩ :=
                induction ⟨middle, recorded.calls ++ [call]⟩
              have onward := forEach_make_cons ended rest
              refine ⟨call :: made, ?_, ?_⟩
              · rw [onward]
                exact performed.cons ended
              · rw [forEach_make_cons here, recording, onward, List.append_assoc,
                  List.singleton_append]

/-- If an input or an interrupt is refused, no output is configured or driven. -/
theorem made_isPrefix_of_refused (recorded : RecordedPins β) {front back : List PinCall}
    {reason : PinError} {after : β}
    (refused : Attempt.forEach PinCall.make front recorded.pins = .refused reason after)
    {made : List PinCall}
    (calls : (Attempt.forEach PinCall.make (front ++ back) recorded).2.calls =
      recorded.calls ++ made) : made <+: front := by
  obtain ⟨prepared, performed, recording⟩ := forEach_make_recorded recorded front
  rw [Attempt.forEach_append, recording, refused] at calls
  have same : prepared = made := List.append_cancel_left calls
  exact same ▸ performed.made_isPrefix

end AnyDriver

end Instrument

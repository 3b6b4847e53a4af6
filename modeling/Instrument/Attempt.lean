/-!
# Steps that may be refused

An attempt is the outcome of a step on a state: accepted, or refused with a
reason, and in both cases the state it leaves behind.  Attempts are chained so
that the first refusal ends the chain.
-/

namespace Instrument

/-- Whether a step was accepted, and the state after it. -/
abbrev Attempt (ε σ : Type) := Except ε Unit × σ

namespace Attempt

variable {ε σ α : Type}

/-- The step was accepted and left this state. -/
def accepted (state : σ) : Attempt ε σ := (.ok (), state)

/-- The step was refused for this reason and left this state. -/
def refused (reason : ε) (state : σ) : Attempt ε σ := (.error reason, state)

/-- Go on with the next step, unless this one was refused. -/
def andThen (attempt : Attempt ε σ) (next : σ → Attempt ε σ) : Attempt ε σ :=
  match attempt with
  | (.ok (), state) => next state
  | (.error reason, state) => refused reason state

/-- Take one step for each item in order, up to the first that is refused. -/
def forEach (step : σ → α → Attempt ε σ) : List α → σ → Attempt ε σ
  | [], state => accepted state
  | item :: rest, state => (step state item).andThen (forEach step rest)

@[simp] theorem andThen_accepted (state : σ) (next : σ → Attempt ε σ) :
    (accepted state : Attempt ε σ).andThen next = next state := rfl

@[simp] theorem andThen_refused (reason : ε) (state : σ) (next : σ → Attempt ε σ) :
    (refused reason state).andThen next = refused reason state := rfl

end Attempt

end Instrument

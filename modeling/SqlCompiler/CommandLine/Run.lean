import SqlCompiler.CommandLine.Arguments
import SqlCompiler.CommandLine.Report

/-
  This file runs invocations.  The stages follow each other
  and the first that fails ends the run: the name of the
  dialect, the operator table, the document, its compilation.

  Key definitions include:
    * `CommandLine.Surroundings`
    * `CommandLine.layerTable`
    * `CommandLine.Invocation.loadDialect`
    * `CommandLine.readInput`
    * `CommandLine.loadDocument`
    * `CommandLine.Invocation.report`
    * `CommandLine.Invocation.run`
-/

namespace SqlCompiler.CommandLine

/- What reading gives: a text, or the cause of having none. -/
abbrev Contents :=
  Except String String

instance : Coe String Contents where
  coe := .ok

/- What a run can read: files by path, and standard input. -/
structure Surroundings where
  files : String → Contents
  stdin : Contents

/-
  The operator table at a path in front of a dialect, and the
  event of putting it there.
-/
def layerTable
    (surroundings : Surroundings)
    (base : Dialect)
    (path : String) : Except Failure (Dialect × List Event) :=
  match surroundings.files path with
  | .error cause => .error (.unreadableTable path cause)
  | .ok text =>
      match OperatorTable.parse text with
      | .error error => .error (.unusableTable path error)
      | .ok table =>
          .ok (table.layeredOver base,
            [.layering table.name table.binary.size
              table.unary.size base.name])

/- The dialect of a run and the events of loading it. -/
def Invocation.loadDialect
    (invocation : Invocation)
    (surroundings : Surroundings) :
    Except Failure (Dialect × List Event) :=
  match Dialect.named? invocation.dialect with
  | none => .error (.unknownDialect invocation.dialect)
  | some base =>
      match invocation.operators with
      | none => .ok (base, [])
      | some path => layerTable surroundings base path

/- The text at a path, or from standard input. -/
def readInput
    (surroundings : Surroundings)
    (path : String) : Except Failure String :=
  if path = "-" then
    surroundings.stdin.mapError .unreadableStdin
  else
    (surroundings.files path).mapError (.unreadableInput path)

/- The document at a path, or from standard input. -/
def loadDocument
    (surroundings : Surroundings)
    (path : String) : Except Failure Document :=
  match readInput surroundings path with
  | .error failure => .error failure
  | .ok text =>
      match Document.parse text with
      | .error fault => .error (.unusableInput fault)
      | .ok document => .ok document

/- The report of a command in a dialect. -/
def Command.report
    (surroundings : Surroundings)
    (dialect : Dialect) : Command → Report
  | .operators symbols =>
      ⟨[], String.join (symbols.map (describe dialect)), none⟩
  | .compile input =>
      match loadDocument surroundings input with
      | .error failure => .failed failure
      | .ok document =>
          (Report.ofFragment (document.compile dialect)).after
            (document.events dialect)

/- The report of a run. -/
def Invocation.report
    (invocation : Invocation)
    (surroundings : Surroundings) : Report :=
  match invocation.loadDialect surroundings with
  | .error failure => .failed failure
  | .ok (dialect, events) =>
      (invocation.command.report surroundings dialect).after
        (events ++ [.dialectReady dialect.name])

/- The outcome of a run. -/
def Invocation.run
    (invocation : Invocation)
    (surroundings : Surroundings) : Outcome :=
  (invocation.report surroundings).outcome invocation.verbose

end SqlCompiler.CommandLine

import SqlCompiler.Compilation.Event
import SqlCompiler.Dialect.BuiltIn
import SqlCompiler.Operator.Table

/-
  This file defines what a run leaves behind: its log, its
  output and, if it failed, the reason.

  Key definitions include:
    * `CommandLine.Failure`
    * `CommandLine.Failure.text`
    * `CommandLine.Entry`
    * `CommandLine.Report`
    * `CommandLine.Outcome`
    * `CommandLine.Report.outcome`
    * `CommandLine.Report.ofFragment`
    * `CommandLine.describe`
-/

namespace SqlCompiler.CommandLine

------------------------------------------------------------
-- Failures
------------------------------------------------------------

/- The reason for which a run fails. -/
inductive Failure where
  | unknownDialect (name : String)
  | unreadableTable (path cause : String)
  | unusableTable (path : String) (error : TableError)
  | unreadableStdin (cause : String)
  | unreadableInput (path cause : String)
  | unusableInput (fault : Json.Fault)
  | compilation (count : Nat)
deriving DecidableEq, Repr

namespace Failure

def message : Failure → String
  | .unknownDialect name => Dialect.unknownMessage name
  | .unreadableTable path _ =>
      "failed to read operator table " ++ path
  | .unusableTable path _ =>
      "failed to load operator table " ++ path
  | .unreadableStdin _ => "failed to read stdin"
  | .unreadableInput path _ => "failed to read " ++ path
  | .unusableInput _ => Document.rejection
  | .compilation count =>
      "compilation failed with " ++ toString count ++ " error(s)"

/- What led to the failure, the nearest cause first. -/
def causes : Failure → List String
  | .unknownDialect _ => []
  | .unreadableTable _ cause => [cause]
  | .unusableTable _ (.unreadable fault) =>
      [TableError.message (.unreadable fault), fault.message]
  | .unusableTable _ error => [error.message]
  | .unreadableStdin cause => [cause]
  | .unreadableInput _ cause => [cause]
  | .unusableInput fault => [fault.message]
  | .compilation _ => []

/- A cause behind its mark; further lines are indented. -/
def indented
    (mark indent cause : String) : String :=
  "\n" ++ mark ++
    String.join (cause.toList.map fun c =>
      if c = '\n' then "\n" ++ indent else c.toString)

/- The causes; several are numbered. -/
def causesText : List String → String
  | [] => ""
  | [cause] => "\n\nCaused by:" ++ indented "    " "    " cause
  | causes =>
      "\n\nCaused by:" ++
        String.join (causes.zipIdx.map fun (cause, n) =>
          indented ("    " ++ toString n ++ ": ") "       " cause)

/- The last words of a failed run. -/
def text
    (failure : Failure) : String :=
  "Error: " ++ failure.message ++ causesText failure.causes ++ "\n"

end Failure

------------------------------------------------------------
-- Reports
------------------------------------------------------------

/- An entry of the log. -/
inductive Entry where
  | event (what : Event)
  | problem (what : Problem)
  | problemCount (count : Nat)
deriving DecidableEq, Repr

/- The text of an entry; events only show in a verbose run. -/
def Entry.text
    (verbose : Bool) : Entry → String
  | .event what => if verbose then what.line else ""
  | .problem what => "error: " ++ what.message ++ "\n"
  | .problemCount count =>
      " INFO Compilation failed count=" ++ toString count ++ "\n"

/- What a run leaves behind. -/
structure Report where
  log : List Entry
  output : String
  failure : Option Failure
deriving DecidableEq, Repr

/- What the caller of the program sees. -/
structure Outcome where
  exit : UInt8
  stdout : String
  stderr : String
deriving DecidableEq, Repr

namespace Report

/- A run that ends at a failed stage. -/
def failed
    (failure : Failure) : Report :=
  ⟨[], "", some failure⟩

/- The report of a run that continues after some events. -/
def after
    (events : List Event)
    (report : Report) : Report :=
  ⟨events.map .event ++ report.log, report.output, report.failure⟩

def outcome
    (verbose : Bool)
    (report : Report) : Outcome :=
  let log := String.join (report.log.map (Entry.text verbose))
  match report.failure with
  | none => ⟨0, report.output, log⟩
  | some failure => ⟨1, report.output, log ++ failure.text⟩

/- The report of a compiled tree. -/
def ofFragment : Fragment → Report
  | .text sql => ⟨[], sql ++ "\n", none⟩
  | .failed problems =>
      ⟨problems.toList.map .problem ++ [.problemCount problems.length],
       "", some (.compilation problems.length)⟩

end Report

------------------------------------------------------------
-- Operators
------------------------------------------------------------

/- The text with blanks up to a width in characters. -/
def padded
    (width : Nat)
    (text : String) : String :=
  text.pushn ' ' (width - text.length)

/- How a dialect renders a symbol, one line for each arity. -/
def describe
    (dialect : Dialect)
    (symbol : String) : String :=
  let label := padded 12 symbol
  let binaryLine :=
    match dialect.binary symbol with
    | none => ""
    | some operator =>
        label ++ " binary  " ++ padded 24 operator.text ++
          " precedence " ++ toString operator.precedence.toNat ++ "\n"
  let unaryLine :=
    match dialect.unary symbol with
    | none => ""
    | some operator => label ++ " unary   " ++ operator.text ++ "\n"
  if (dialect.binary symbol).isNone && (dialect.unary symbol).isNone then
    label ++ " unknown in " ++ dialect.name ++ "\n"
  else
    binaryLine ++ unaryLine

end SqlCompiler.CommandLine

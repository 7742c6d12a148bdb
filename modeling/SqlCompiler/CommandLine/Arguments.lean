/-
  This file reads the arguments of the command line.  Options
  stand before the subcommand; what an option does not set can
  be set by the environment.  Arguments that make no sense are
  a usage error, whatever else is the matter.

  Key definitions include:
    * `CommandLine.Command`
    * `CommandLine.Invocation`
    * `CommandLine.Environment`
    * `CommandLine.Argument.classify`
    * `CommandLine.Options.scan`
    * `CommandLine.Invocation.parse?`
-/

namespace SqlCompiler.CommandLine

------------------------------------------------------------
-- Invocations
------------------------------------------------------------

/- What to do; the input `-` is standard input. -/
inductive Command where
  | compile (input : String)
  | operators (symbols : List String)
deriving DecidableEq, Repr

/- A run of the program. -/
structure Invocation where
  dialect : String
  operators : Option String
  verbose : Bool
  command : Command
deriving DecidableEq, Repr

/- The settings that the environment holds. -/
structure Environment where
  dialect : Option String := none
  operators : Option String := none
deriving DecidableEq, Repr

------------------------------------------------------------
-- Single Arguments
------------------------------------------------------------

/-
  An argument by its shape.  A lone dash is a word; after the
  separator every argument is one.
-/
inductive Argument where
  | word (text : String)
  | separator
  | long (name : List Char) (value : Option (List Char))
  | short (flags : List Char)
deriving DecidableEq, Repr

/- A long option and the value after its equals sign, if any. -/
def Argument.ofLong
    (text : List Char) : Argument :=
  let (name, rest) := text.span (· ≠ '=')
  .long name rest.tail?

def Argument.classify
    (text : String) : Argument :=
  match text.toList with
  | ['-', '-'] => .separator
  | '-' :: '-' :: rest => .ofLong rest
  | ['-'] => .word text
  | '-' :: flags => .short flags
  | _ => .word text

------------------------------------------------------------
-- Options
------------------------------------------------------------

/- The options that take a value. -/
inductive Setting where
  | dialect
  | operators
deriving DecidableEq, Repr

/- The options found so far. -/
structure Options where
  dialect : Option String := none
  operators : Option String := none
  verbose : Bool := false
deriving DecidableEq, Repr

namespace Options

/- Give an option its value; none if it has one already. -/
def set?
    (options : Options)
    (setting : Setting)
    (value : String) : Option Options :=
  match setting, options.dialect, options.operators with
  | .dialect, none, _ =>
      some ⟨some value, options.operators, options.verbose⟩
  | .operators, _, none =>
      some ⟨options.dialect, some value, options.verbose⟩
  | _, _, _ => none

/- Turn on the debug log; none if it is on already. -/
def setVerbose?
    (options : Options) : Option Options :=
  if options.verbose then
    none
  else
    some ⟨options.dialect, options.operators, true⟩

/-
  The options after an argument, and the option that takes the
  next argument as its value, if any.
-/
abbrev Step :=
  Option (Options × Option Setting)

/- An option with an attached value, or one that waits for it. -/
def assign
    (options : Options)
    (setting : Setting) : Option (List Char) → Step
  | none => some (options, some setting)
  | some value =>
      (options.set? setting (String.ofList value)).map (·, none)

/- The value attached to a short option, after an equals sign. -/
def attached : List Char → Option (List Char)
  | [] => none
  | '=' :: value => some value
  | value => some value

/- A cluster of short options; one with a value ends it. -/
def ofShort
    (options : Options) : List Char → Step
  | [] => some (options, none)
  | 'v' :: rest => do ofShort (← options.setVerbose?) rest
  | 'd' :: value => options.assign .dialect (attached value)
  | 'o' :: value => options.assign .operators (attached value)
  | _ => none

/- A long option; the one for the debug log takes no value. -/
def ofLong
    (options : Options)
    (name : List Char)
    (value : Option (List Char)) : Step :=
  match String.ofList name, value with
  | "verbose", none => options.setVerbose?.map (·, none)
  | "dialect", value => options.assign .dialect value
  | "operators", value => options.assign .operators value
  | _, _ => none

/-
  The options in front of the first word, and the arguments
  from there on.  An option that waits for its value takes the
  next argument if that is a word.
-/
def scan : Options → Option Setting → List String →
    Option (Options × List String)
  | _, _, [] => none
  | options, some setting, text :: rest =>
      match Argument.classify text with
      | .word value => do
          scan (← options.set? setting value) none rest
      | _ => none
  | options, none, text :: rest =>
      match Argument.classify text with
      | .word _ => some (options, text :: rest)
      | .separator => none
      | .short flags => do
          let (options, waiting) ← options.ofShort flags
          scan options waiting rest
      | .long name value => do
          let (options, waiting) ← options.ofLong name value
          scan options waiting rest

end Options

------------------------------------------------------------
-- Commands
------------------------------------------------------------

/- The arguments of a subcommand, which has no options. -/
def words? : List String → Option (List String)
  | [] => some []
  | text :: rest =>
      match Argument.classify text with
      | .word _ => (words? rest).map (text :: ·)
      | .separator => some rest
      | _ => none

/- A path is not empty. -/
def path?
    (text : String) : Option String :=
  if text = "" then none else some text

def Command.parse? : List String → Option Command
  | "compile" :: arguments => do
      match ← words? arguments with
      | [] => some (.compile "-")
      | [input] => (path? input).map .compile
      | _ => none
  | "operators" :: arguments => do
      match ← words? arguments with
      | [] => none
      | symbols => some (.operators symbols)
  | _ => none

/- The path of the operator table, if one is set. -/
def tablePath? : Option String → Option (Option String)
  | none => some none
  | some text => (path? text).map some

/- The invocation that the arguments ask for. -/
def Invocation.parse?
    (environment : Environment)
    (arguments : List String) : Option Invocation := do
  let (options, arguments) ← Options.scan ⟨none, none, false⟩ none arguments
  let command ← Command.parse? arguments
  let operators ←
    tablePath? (options.operators.or environment.operators)
  let dialect :=
    (options.dialect.or environment.dialect).getD "generic"
  return ⟨dialect, operators, options.verbose, command⟩

end SqlCompiler.CommandLine

import SqlCompiler.CommandLine.Run

/-
  This file is the program: it gathers the arguments, the
  environment and the files, and writes the outcome of the
  run.

  Key definitions include:
    * `main`
-/

namespace SqlCompiler.CommandLine

/- The text that an action reads, or why it fails. -/
def attempt
    (read : IO String) : IO Contents := do
  try
    return .ok (← read)
  catch
    | .noFileOrDirectory _ code _ =>
        return .error
          ("No such file or directory (os error " ++
            toString code ++ ")")
    | .userError _ =>
        return .error "stream did not contain valid UTF-8"
    | error => return .error (toString error)

/- The files that were read, by path. -/
def lookupFile
    (files : List (String × Contents))
    (path : String) : Contents :=
  match files.lookup path with
  | some content => content
  | none => .error "not read"

/-
  Read what a run needs.  Standard input and the document are
  left alone when the dialect cannot be loaded.
-/
def gather
    (invocation : Invocation) : IO Surroundings := do
  let mut files := []
  if let some path := invocation.operators then
    files := (path, ← attempt (IO.FS.readFile path)) :: files
  let early : Surroundings := ⟨lookupFile files, ""⟩
  match invocation.command, invocation.loadDialect early with
  | .compile "-", .ok _ =>
      let input ← IO.getStdin
      return ⟨lookupFile files, ← attempt input.readToEnd⟩
  | .compile path, .ok _ =>
      files := (path, ← attempt (IO.FS.readFile path)) :: files
      return ⟨lookupFile files, ""⟩
  | _, _ => return early

def usage : String :=
  "usage: [-d DIALECT] [-o FILE] [-v] compile [FILE]\n" ++
    "       [-d DIALECT] [-o FILE] [-v] operators SYMBOL...\n"

/- The program, given its arguments. -/
def program
    (arguments : List String) : IO UInt32 := do
  let environment : Environment :=
    ⟨← IO.getEnv "RELSQL_DIALECT", ← IO.getEnv "RELSQL_OPERATORS"⟩
  match Invocation.parse? environment arguments with
  | none =>
      IO.eprint usage
      return 2
  | some invocation =>
      let outcome := invocation.run (← gather invocation)
      IO.print outcome.stdout
      IO.eprint outcome.stderr
      return outcome.exit.toUInt32

end SqlCompiler.CommandLine

def main
    (arguments : List String) : IO UInt32 :=
  SqlCompiler.CommandLine.program arguments

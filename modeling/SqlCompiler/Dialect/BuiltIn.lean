import SqlCompiler.Dialect.Basic

/-
  This file defines the three built-in dialects and finds them
  by name.

  Key definitions include:
    * `Dialect.generic`
    * `Dialect.sqlite`
    * `Dialect.postgres`
    * `Dialect.named?`
-/

namespace SqlCompiler.Dialect

/- The unary operators of every built-in dialect. -/
def unaryEntries : List Entry :=
  [("-", ⟨"-", 0⟩),
   ("+", ⟨"+", 0⟩),
   ("not", ⟨"NOT", 0⟩),
   ("~", ⟨"~", 0⟩)]

------------------------------------------------------------
-- Standard SQL
------------------------------------------------------------

def genericEntries : List Entry :=
  [("or", ⟨"OR", 1⟩),
   ("and", ⟨"AND", 2⟩),
   ("=", ⟨"=", 3⟩),
   ("!=", ⟨"!=", 3⟩),
   ("<>", ⟨"<>", 3⟩),
   ("<", ⟨"<", 3⟩),
   ("<=", ⟨"<=", 3⟩),
   (">", ⟨">", 3⟩),
   (">=", ⟨">=", 3⟩),
   ("like", ⟨"LIKE", 4⟩),
   ("|", ⟨"|", 5⟩),
   ("&", ⟨"&", 6⟩),
   ("<<", ⟨"<<", 7⟩),
   (">>", ⟨">>", 7⟩),
   ("+", ⟨"+", 8⟩),
   ("-", ⟨"-", 8⟩),
   ("||", ⟨"||", 8⟩),
   ("*", ⟨"*", 9⟩),
   ("/", ⟨"/", 9⟩),
   ("%", ⟨"%", 9⟩)]

/- The dialect used when none is given. -/
def generic : Dialect :=
  ofEntries "generic" genericEntries unaryEntries

------------------------------------------------------------
-- SQLite
------------------------------------------------------------

/-
  Concatenation binds tightest, the bitwise operators share a
  level, and order comparisons bind tighter than equality.
-/
def sqliteEntries : List Entry :=
  [("or", ⟨"OR", 1⟩),
   ("and", ⟨"AND", 2⟩),
   ("=", ⟨"=", 3⟩),
   ("==", ⟨"==", 3⟩),
   ("!=", ⟨"!=", 3⟩),
   ("<>", ⟨"<>", 3⟩),
   ("is", ⟨"IS", 3⟩),
   ("is not", ⟨"IS NOT", 3⟩),
   ("like", ⟨"LIKE", 3⟩),
   ("glob", ⟨"GLOB", 3⟩),
   ("match", ⟨"MATCH", 3⟩),
   ("regexp", ⟨"REGEXP", 3⟩),
   ("<", ⟨"<", 4⟩),
   ("<=", ⟨"<=", 4⟩),
   (">", ⟨">", 4⟩),
   (">=", ⟨">=", 4⟩),
   ("&", ⟨"&", 7⟩),
   ("|", ⟨"|", 7⟩),
   ("<<", ⟨"<<", 7⟩),
   (">>", ⟨">>", 7⟩),
   ("+", ⟨"+", 8⟩),
   ("-", ⟨"-", 8⟩),
   ("*", ⟨"*", 9⟩),
   ("/", ⟨"/", 9⟩),
   ("%", ⟨"%", 9⟩),
   ("||", ⟨"||", 10⟩)]

def sqlite : Dialect :=
  ofEntries "sqlite" sqliteEntries unaryEntries

------------------------------------------------------------
-- PostgreSQL
------------------------------------------------------------

/-
  Operators without a level of their own bind between pattern
  matching and addition.
-/
def postgresEntries : List Entry :=
  [("or", ⟨"OR", 1⟩),
   ("and", ⟨"AND", 2⟩),
   ("=", ⟨"=", 3⟩),
   ("!=", ⟨"<>", 3⟩),
   ("<>", ⟨"<>", 3⟩),
   ("<", ⟨"<", 3⟩),
   ("<=", ⟨"<=", 3⟩),
   (">", ⟨">", 3⟩),
   (">=", ⟨">=", 3⟩),
   ("like", ⟨"LIKE", 4⟩),
   ("ilike", ⟨"ILIKE", 4⟩),
   ("similar to", ⟨"SIMILAR TO", 4⟩),
   ("||", ⟨"||", 5⟩),
   ("~", ⟨"~", 5⟩),
   ("~*", ⟨"~*", 5⟩),
   ("!~", ⟨"!~", 5⟩),
   ("!~*", ⟨"!~*", 5⟩),
   ("&", ⟨"&", 5⟩),
   ("|", ⟨"|", 5⟩),
   ("#", ⟨"#", 5⟩),
   ("<<", ⟨"<<", 5⟩),
   (">>", ⟨">>", 5⟩),
   ("+", ⟨"+", 8⟩),
   ("-", ⟨"-", 8⟩),
   ("*", ⟨"*", 9⟩),
   ("/", ⟨"/", 9⟩),
   ("%", ⟨"%", 9⟩),
   ("^", ⟨"^", 10⟩)]

def postgres : Dialect :=
  ofEntries "postgres" postgresEntries unaryEntries

------------------------------------------------------------
-- Names
------------------------------------------------------------

/- The built-in dialect with the given name, in any ASCII case. -/
def named?
    (name : String) : Option Dialect :=
  match Text.lowered name with
  | "generic" | "default" | "ansi" => some generic
  | "sqlite" => some sqlite
  | "postgres" | "postgresql" => some postgres
  | _ => none

/- What is said of a name that no built-in dialect has. -/
def unknownMessage
    (name : String) : String :=
  "unknown dialect '" ++ name ++
    "' (expected generic, sqlite, or postgres)"

end SqlCompiler.Dialect

import SqlCompiler.Dialect.Basic
import SqlCompiler.Fragment

/-
  This file compiles scalar expressions.  A left operand is
  put in parentheses when it is a binary expression that binds
  less tightly than the operator around it; nothing else is.

  Key definitions include:
    * `Literal.compile`
    * `Attribute.compile`
    * `Expr.bindsLooser`
    * `Expr.compile`
    * `Expr.compileAll`
-/

namespace SqlCompiler

------------------------------------------------------------
-- Leaves
------------------------------------------------------------

/- A character of a string literal; a quote is doubled. -/
def Literal.quoteChar
    (c : Char) : List Char :=
  if c = '\'' then ['\'', '\''] else [c]

/- A string between single quotes. -/
def Literal.quote
    (value : String) : String :=
  String.ofList
    ('\'' :: (value.toList.flatMap quoteChar ++ ['\'']))

def Literal.compile : Literal → Fragment
  | .null => .text "NULL"
  | .integer value => .text (toString value.toInt)
  | .boolean true => .text "true"
  | .boolean false => .text "false"
  | .string value => .text (quote value)

/- The error of a reference wins over its name. -/
def Attribute.compile
    (target : Attribute) : Fragment :=
  match target.error, target.qualifier, target.name with
  | some cause, _, _ => .fail (.binding cause)
  | none, some qualifier, some name =>
      .text (qualifier ++ "." ++ name)
  | none, none, some name => .text name
  | none, _, none =>
      .fail (.internal
        "attribute reference has neither a name nor an error")

------------------------------------------------------------
-- Expressions
------------------------------------------------------------

namespace Expr

/-
  Whether an expression is a binary one whose operator is
  known and binds less tightly than the given precedence.
-/
def bindsLooser
    (dialect : Dialect)
    (precedence : UInt8) : Expr → Bool
  | .binary op _ _ =>
      match dialect.binary op with
      | some operator => operator.precedence < precedence
      | none => false
  | _ => false

mutual

/- The SQL of an expression in a dialect. -/
def compile
    (dialect : Dialect) : Expr → Fragment
  | .literal value => value.compile
  | .binary op left right =>
      let leftSql := left.compile dialect
      let rightSql := right.compile dialect
      match dialect.binary op with
      | none =>
          (leftSql.combine (.fail (.unknownBinary op))).combine
            rightSql
      | some operator =>
          let wrapped :=
            leftSql.wrapIf "(" ")"
              (left.bindsLooser dialect operator.precedence)
          (wrapped.combine
            (.text (" " ++ operator.text ++ " "))).combine rightSql
  | .unary op operand =>
      let operandSql := operand.compile dialect
      match dialect.unary op with
      | none => (Fragment.fail (.unknownUnary op)).combine operandSql
      | some operator =>
          (Fragment.text (operator.text ++ " ")).combine operandSql
  | .call name args =>
      (Fragment.text name).combine
        ((Fragment.join ", " (compileEach dialect args)).wrap "(" ")")
  | .column name table => .text (table.name ++ "." ++ name)
  | .reference target => target.compile
  | .alias name expr =>
      ((expr.compile dialect).followedBy " AS ").followedBy name
  | .parameter _ => .fail (.unsupported "parameter binding")
  | .error cause => .fail (.binding cause)

/- The SQL of each expression of a list. -/
def compileEach
    (dialect : Dialect) : List Expr → List Fragment
  | [] => []
  | expr :: rest => expr.compile dialect :: compileEach dialect rest

end

/- Compiling each expression of a list is a map. -/
theorem compileEach_eq_map
    (dialect : Dialect)
    (exprs : List Expr) :
    compileEach dialect exprs = exprs.map (compile dialect) := by
  induction exprs with
  | nil => rfl
  | cons expr rest ih => simp [compileEach, ih]

/- The expressions with commas between them. -/
def compileAll
    (dialect : Dialect)
    (exprs : List Expr) : Fragment :=
  .join ", " (exprs.map (compile dialect))

end Expr

end SqlCompiler

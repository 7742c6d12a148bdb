import SqlCompiler.Json.Number
import SqlCompiler.Text

/-
  This file lists the reasons for which a JSON text is
  rejected, their messages and their categories.  A message says
  what is wrong, but not at which line and column of the text.

  Key definitions include:
    * `Json.Found`
    * `Json.Part`
    * `Json.Category`
    * `Json.Fault`
    * `Json.Fault.category`
    * `Json.Fault.message`
-/

namespace SqlCompiler.Json

------------------------------------------------------------
-- Causes
------------------------------------------------------------

/- What stands in the text in place of what was expected. -/
inductive Found where
  | null
  | boolean (value : Bool)
  | number (value : Number)
  | string (value : String)
  | sequence
  | map
  | unitVariant
deriving DecidableEq, Repr

/- The part of a text inside which it ended. -/
inductive Part where
  | value
  | string
  | list
  | object
deriving DecidableEq, Repr

/- The cause of a rejection. -/
inductive Fault where
  | ended (part : Part)
  | expectedValue
  | expectedKeyword
  | expectedColon
  | expectedCommaOrBracket
  | expectedCommaOrBrace
  | trailingComma
  | trailingCharacters
  | keyNotString
  | invalidEscape
  | invalidNumber
  | numberOutOfRange
  | controlCharacter
  | loneSurrogate
  | unfinishedPair
  | nestingTooDeep
  | wrongType (found : Found) (expected : String)
  | wrongValue (found : Found) (expected : String)
  | wrongLength (length : Nat) (expected : String)
  | unknownVariant (name : String) (expected : List String)
  | duplicateField (name : String)
  | missingField (name : String)
deriving DecidableEq, Repr

/- The three categories of causes. -/
inductive Category where
  | syntactic
  | data
  | ended
deriving DecidableEq, Repr

------------------------------------------------------------
-- Wording
------------------------------------------------------------

def Category.name : Category → String
  | .syntactic => "syntax"
  | .data => "data"
  | .ended => "eof"

def Part.name : Part → String
  | .value => "a value"
  | .string => "a string"
  | .list => "a list"
  | .object => "an object"

def Found.text : Found → String
  | .null => "null"
  | .boolean value => "boolean `" ++ toString value ++ "`"
  | .number (.integer value) =>
      "integer `" ++ Number.text (.integer value) ++ "`"
  | .number value => "floating point `" ++ value.text ++ "`"
  | .string value => "string " ++ Text.quoted value
  | .sequence => "sequence"
  | .map => "map"
  | .unitVariant => "unit variant"

namespace Fault

/- A list of names to choose from. -/
def choice
    (names : List String) : String :=
  let ticked := names.map fun name => "`" ++ name ++ "`"
  match ticked with
  | [one] => one
  | [one, other] => one ++ " or " ++ other
  | many => "one of " ++ ", ".intercalate many

/-
  Causes in the shape of the text are syntactic, those in its
  meaning are about data, and a text that stops short is in a
  category of its own.
-/
def category : Fault → Category
  | .ended _ => .ended
  | .wrongType _ _
  | .wrongValue _ _
  | .wrongLength _ _
  | .unknownVariant _ _
  | .duplicateField _
  | .missingField _ => .data
  | _ => .syntactic

def message : Fault → String
  | .ended part => "EOF while parsing " ++ part.name
  | .expectedValue => "expected value"
  | .expectedKeyword => "expected ident"
  | .expectedColon => "expected `:`"
  | .expectedCommaOrBracket => "expected `,` or `]`"
  | .expectedCommaOrBrace => "expected `,` or `\x7d`"
  | .trailingComma => "trailing comma"
  | .trailingCharacters => "trailing characters"
  | .keyNotString => "key must be a string"
  | .invalidEscape => "invalid escape"
  | .invalidNumber => "invalid number"
  | .numberOutOfRange => "number out of range"
  | .controlCharacter =>
      "control character (\\u0000-\\u001F) found while parsing a string"
  | .loneSurrogate => "lone leading surrogate in hex escape"
  | .unfinishedPair => "unexpected end of hex escape"
  | .nestingTooDeep => "recursion limit exceeded"
  | .wrongType found expected =>
      "invalid type: " ++ found.text ++ ", expected " ++ expected
  | .wrongValue found expected =>
      "invalid value: " ++ found.text ++ ", expected " ++ expected
  | .wrongLength length expected =>
      "invalid length " ++ toString length ++
        ", expected " ++ expected
  | .unknownVariant name expected =>
      "unknown variant `" ++ name ++ "`, expected " ++
        choice expected
  | .duplicateField name => "duplicate field `" ++ name ++ "`"
  | .missingField name => "missing field `" ++ name ++ "`"

end Fault

end SqlCompiler.Json

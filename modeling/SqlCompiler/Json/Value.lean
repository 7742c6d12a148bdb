import SqlCompiler.Json.Number

/-
  This file holds JSON values and their compact text: no
  blanks, members in the given order, and strings with only
  the necessary escapes.

  Key definitions include:
    * `Json`
    * `Json.escape`
    * `Json.stringText`
    * `Json.compact`
-/

namespace SqlCompiler

/- A JSON value.  Members keep their order. -/
inductive Json where
  | null
  | boolean (value : Bool)
  | number (literal : Json.Numeral)
  | string (value : String)
  | list (items : List Json)
  | object (members : List (String × Json))
deriving Repr

namespace Json

/- The number of an integer. -/
def integer
    (value : Int) : Json :=
  .number (.ofInt value)

/- A variant with content: an object with one member. -/
def tagged
    (name : String)
    (content : Json) : Json :=
  .object [(name, content)]

/- A value or null. -/
def optional
    {α : Type}
    (encode : α → Json) : Option α → Json
  | none => .null
  | some a => encode a

------------------------------------------------------------
-- Text
------------------------------------------------------------

/-
  A character inside a string.  Quotes, backslashes and
  control characters are escaped, the latter by a short escape
  where there is one.
-/
def escape
    (c : Char) : List Char :=
  match c with
  | '"' => ['\\', '"']
  | '\\' => ['\\', '\\']
  | '\x08' => ['\\', 'b']
  | '\x0c' => ['\\', 'f']
  | '\n' => ['\\', 'n']
  | '\r' => ['\\', 'r']
  | '\t' => ['\\', 't']
  | c =>
      if c.toNat < 0x20 then
        ['\\', 'u', '0', '0',
          Nat.digitChar (c.toNat / 16),
          Nat.digitChar (c.toNat % 16)]
      else
        [c]

/- The text of a string. -/
def stringText
    (value : String) : List Char :=
  '"' :: (value.toList.flatMap escape ++ ['"'])

mutual

/- The compact text of a value. -/
def text : Json → List Char
  | .null => ['n', 'u', 'l', 'l']
  | .boolean true => ['t', 'r', 'u', 'e']
  | .boolean false => ['f', 'a', 'l', 's', 'e']
  | .number literal => literal.text
  | .string value => stringText value
  | .list items => '[' :: (itemsText items ++ [']'])
  | .object members => '\x7b' :: (membersText members ++ ['\x7d'])

/- The items of a list with commas between them. -/
def itemsText : List Json → List Char
  | [] => []
  | [item] => item.text
  | item :: next :: rest =>
      item.text ++ ',' :: itemsText (next :: rest)

/- The members of an object with commas between them. -/
def membersText : List (String × Json) → List Char
  | [] => []
  | [(name, value)] => stringText name ++ ':' :: value.text
  | (name, value) :: next :: rest =>
      stringText name ++ ':' :: value.text ++
        ',' :: membersText (next :: rest)

end

/- The compact text as a string. -/
def compact
    (value : Json) : String :=
  String.ofList value.text

end Json

end SqlCompiler

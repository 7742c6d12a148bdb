import SqlCompiler.Json.Token

/-
  This file reads values from tokens.  A reader knows what it
  expects and consumes the tokens from the front; the first
  fault ends the reading.  Every bracket that is entered uses
  up one level of the room for nesting.

  Key definitions include:
    * `Json.Reader`
    * `Json.Token.mismatch`
    * `Json.Reader.string`
    * `Json.Reader.optional`
    * `Json.Reader.nested`
    * `Json.Reader.list`
    * `Json.Reader.entries`
    * `Json.read`
-/

namespace SqlCompiler.Json

------------------------------------------------------------
-- Readers
------------------------------------------------------------

/-
  A reader maps the room for nesting and the tokens to a value
  and the tokens after it.
-/
def Reader
    (α : Type) : Type :=
  Nat → List Token → Except Fault (α × List Token)

namespace Reader

instance : Monad Reader where
  pure a := fun _ tokens => .ok (a, tokens)
  bind reader next := fun room tokens =>
    match reader room tokens with
    | .error fault => .error fault
    | .ok (a, rest) => next a room rest

/- The reader that always fails. -/
def fail
    {α : Type}
    (fault : Fault) : Reader α :=
  fun _ _ => .error fault

/- A result that was found without reading. -/
def lift
    {α : Type}
    (result : Except Fault α) : Reader α :=
  fun _ tokens => result.map (·, tokens)

/- Run a reader inside a bracket. -/
def nested
    {α : Type}
    (reader : Reader α) : Reader α :=
  fun room tokens =>
    match room with
    | 0 => .error .nestingTooDeep
    | room + 1 => reader room tokens

end Reader

------------------------------------------------------------
-- Single Values
------------------------------------------------------------

/-
  The fault of a token that stands where something else was
  expected.  A token with a fault of its own reports that.
-/
def Token.mismatch
    (expected : String) : Token → Fault
  | .null => .wrongType .null expected
  | .boolean value => .wrongType (.boolean value) expected
  | .number literal =>
      match literal.number? with
      | some value => .wrongType (.number value) expected
      | none => .numberOutOfRange
  | .string (.ok value) => .wrongType (.string value) expected
  | .string (.error fault) => fault
  | .beginList => .wrongType .sequence expected
  | .beginObject => .wrongType .map expected
  | .unreadable _ why => why.reading
  | _ => .expectedValue

namespace Reader

/-
  Read one token by a partial function; a token outside its
  domain is a mismatch.
-/
def single
    {α : Type}
    (expected : String)
    (accept : Token → Option (Except Fault α)) : Reader α :=
  fun _ tokens =>
    match tokens with
    | [] => .error (.ended .value)
    | token :: rest =>
        match accept token with
        | some (.ok a) => .ok (a, rest)
        | some (.error fault) => .error fault
        | none => .error (token.mismatch expected)

def string : Reader String :=
  single "a string" fun
    | .string content => some content
    | _ => none

def boolean : Reader Bool :=
  single "a boolean" fun
    | .boolean value => some (.ok value)
    | _ => none

/- The content of a variant that carries nothing. -/
def unit : Reader Unit :=
  single "unit" fun
    | .null => some (.ok ())
    | _ => none

/- An integer between two bounds, given its conversion. -/
def integer
    {α : Type}
    (expected : String)
    (least greatest : Int)
    (convert : Int → α) : Reader α :=
  single expected fun
    | .number literal =>
        match literal.number? with
        | some (.integer value) =>
            if least ≤ value ∧ value ≤ greatest then
              some (.ok (convert value))
            else
              some (.error
                (.wrongValue (.number (.integer value)) expected))
        | _ => none
    | _ => none

def int64 : Reader Int64 :=
  integer "i64" Int64.minValue.toInt Int64.maxValue.toInt Int64.ofInt

def uint8 : Reader UInt8 :=
  integer "u8" 0 255 fun value => UInt8.ofNat value.toNat

/- A value or null. -/
def optional
    {α : Type}
    (reader : Reader α) : Reader (Option α) :=
  fun room tokens =>
    match tokens with
    | .null :: rest => .ok (none, rest)
    | .unreadable .null why :: _ => .error why.reading
    | tokens =>
        match reader room tokens with
        | .error fault => .error fault
        | .ok (a, rest) => .ok (some a, rest)

------------------------------------------------------------
-- Lists
------------------------------------------------------------

/-
  The next element of a list, none in front of the closing
  bracket.  Elements after the first follow a comma.
-/
def element
    {α : Type}
    (item : Reader α)
    (isFirst : Bool) : Reader (Option α) :=
  fun room tokens =>
    match isFirst, tokens with
    | _, [] => .error (.ended .list)
    | _, .endList :: rest => .ok (none, .endList :: rest)
    | true, tokens => (some <$> item) room tokens
    | false, .comma :: [] => .error (.ended .value)
    | false, .comma :: .endList :: _ => .error .trailingComma
    | false, .comma :: rest => (some <$> item) room rest
    | false, _ => .error .expectedCommaOrBracket

/-
  The elements up to the closing bracket.  Each consumes a
  token, so when the fuel is the number of tokens and runs
  out, so have the tokens.
-/
def elements
    {α : Type}
    (item : Reader α) : Nat → Bool → Reader (List α)
  | 0, _ => fail (.ended .list)
  | fuel + 1, isFirst => do
      match ← element item isFirst with
      | none => pure []
      | some a =>
          let rest ← elements item fuel false
          pure (a :: rest)

/- The closing bracket of a list. -/
def endOfList : Reader Unit :=
  fun _ tokens =>
    match tokens with
    | [] => .error (.ended .list)
    | .endList :: rest => .ok ((), rest)
    | .comma :: .endList :: _ => .error .trailingComma
    | _ => .error .trailingCharacters

/- A list of items. -/
def list
    {α : Type}
    (item : Reader α) : Reader (List α) :=
  fun room tokens =>
    match tokens with
    | [] => .error (.ended .value)
    | .beginList :: rest =>
        (do
          let items ← nested (elements item rest.length true)
          endOfList
          pure items : Reader (List α)) room rest
    | token :: _ => .error (token.mismatch "a sequence")

------------------------------------------------------------
-- Members of Objects
------------------------------------------------------------

/- A key; only strings are keys. -/
def key : Reader String :=
  fun _ tokens =>
    match tokens with
    | .string (.ok name) :: rest => .ok (name, rest)
    | .string (.error fault) :: _ => .error fault
    | .unreadable .quote why :: _ => .error why.reading
    | _ => .error .keyNotString

/-
  The key of the next member, none in front of the closing
  brace.  Members after the first follow a comma.
-/
def memberKey
    (isFirst : Bool) : Reader (Option String) :=
  fun room tokens =>
    match isFirst, tokens with
    | _, [] => .error (.ended .object)
    | _, .endObject :: rest => .ok (none, .endObject :: rest)
    | true, tokens => (some <$> key) room tokens
    | false, .comma :: [] => .error (.ended .value)
    | false, .comma :: .endObject :: _ => .error .trailingComma
    | false, .comma :: rest => (some <$> key) room rest
    | false, _ => .error .expectedCommaOrBrace

/- The colon between a key and its value. -/
def colon : Reader Unit :=
  fun _ tokens =>
    match tokens with
    | [] => .error (.ended .object)
    | .colon :: rest => .ok ((), rest)
    | _ => .error .expectedColon

/- The closing brace of an object. -/
def endOfObject : Reader Unit :=
  fun _ tokens =>
    match tokens with
    | [] => .error (.ended .object)
    | .endObject :: rest => .ok ((), rest)
    | .comma :: _ => .error .trailingComma
    | _ => .error .trailingCharacters

/- The members up to the closing brace, as in `elements`. -/
def members
    {α : Type}
    (value : Reader α) : Nat → Bool → Reader (List (String × α))
  | 0, _ => fail (.ended .object)
  | fuel + 1, isFirst => do
      match ← memberKey isFirst with
      | none => pure []
      | some name =>
          colon
          let a ← value
          let rest ← members value fuel false
          pure ((name, a) :: rest)

/- An object with arbitrary keys, as its members in order. -/
def entries
    {α : Type}
    (value : Reader α) : Reader (List (String × α)) :=
  fun room tokens =>
    match tokens with
    | [] => .error (.ended .value)
    | .beginObject :: rest =>
        (do
          let found ← nested (members value rest.length true)
          endOfObject
          pure found : Reader (List (String × α))) room rest
    | token :: _ => .error (token.mismatch "a map")

end Reader

------------------------------------------------------------
-- Whole Texts
------------------------------------------------------------

/- The number of brackets that may be open at once. -/
def nestingLimit : Nat :=
  127

/- Read a text that holds one value and nothing after it. -/
def read
    {α : Type}
    (reader : Reader α)
    (text : String) : Except Fault α :=
  match reader nestingLimit (tokens text.toList) with
  | .error fault => .error fault
  | .ok (a, []) => .ok a
  | .ok (_, _ :: _) => .error .trailingCharacters

end SqlCompiler.Json

import SqlCompiler.Json.Fault

/-
  This file cuts a JSON text into tokens.  Blanks between
  tokens are dropped.  A token that cannot be read in any way
  is the last one; a string or number that can be skipped but
  not read keeps its fault until someone reads it.

  Key definitions include:
    * `Json.Piece`
    * `Json.Stop`
    * `Json.scanString`
    * `Json.decode`
    * `Json.scanNumber`
    * `Json.Token`
    * `Json.tokens`
-/

namespace SqlCompiler.Json

------------------------------------------------------------
-- Strings
------------------------------------------------------------

/-
  A character of a string as it is written: directly or by a
  short escape, or as a UTF-16 unit in hexadecimal.
-/
inductive Piece where
  | char (c : Char)
  | unit (n : Nat)
deriving DecidableEq, Repr

/- Why a string stops before its closing quote. -/
inductive Stop where
  | unterminated
  | controlCharacter
  | unknownEscape
  | badHex
deriving DecidableEq, Repr

/- A string ends with the text after it, or stops short. -/
abbrev Ending :=
  Except Stop (List Char)

/- The character of a short escape. -/
def shortEscape? : Char → Option Char
  | '"' => some '"'
  | '\\' => some '\\'
  | '/' => some '/'
  | 'b' => some '\x08'
  | 'f' => some '\x0c'
  | 'n' => some '\n'
  | 'r' => some '\r'
  | 't' => some '\t'
  | _ => none

/- The value of a hexadecimal digit of either case. -/
def hexValue?
    (c : Char) : Option Nat :=
  if '0' ≤ c ∧ c ≤ '9' then
    some (c.toNat - '0'.toNat)
  else if 'a' ≤ c ∧ c ≤ 'f' then
    some (c.toNat - 'a'.toNat + 10)
  else if 'A' ≤ c ∧ c ≤ 'F' then
    some (c.toNat - 'A'.toNat + 10)
  else
    none

/- The unit that four hexadecimal digits write. -/
def hexUnit?
    (a b c d : Char) : Option Nat := do
  let a ← hexValue? a
  let b ← hexValue? b
  let c ← hexValue? c
  let d ← hexValue? d
  return ((a * 16 + b) * 16 + c) * 16 + d

/-
  How a string stops at an escape that lacks its four digits:
  it is unterminated when fewer than four bytes are left.
-/
def withoutHex
    (rest : List Char) : Stop :=
  if (String.ofList rest).utf8ByteSize < 4 then
    .unterminated
  else
    .badHex

/- The pieces of a string after its opening quote. -/
def scanString : List Char → List Piece × Ending
  | [] => ([], .error .unterminated)
  | '"' :: rest => ([], .ok rest)
  | '\\' :: [] => ([], .error .unterminated)
  | '\\' :: 'u' :: a :: b :: c :: d :: rest =>
      match hexUnit? a b c d with
      | some n =>
          let (pieces, ending) := scanString rest
          (.unit n :: pieces, ending)
      | none => ([], .error (withoutHex (a :: b :: c :: d :: rest)))
  | '\\' :: 'u' :: rest => ([], .error (withoutHex rest))
  | '\\' :: escape :: rest =>
      match shortEscape? escape with
      | some c =>
          let (pieces, ending) := scanString rest
          (.char c :: pieces, ending)
      | none => ([], .error .unknownEscape)
  | c :: rest =>
      if c.toNat < 0x20 then
        ([], .error .controlCharacter)
      else
        let (pieces, ending) := scanString rest
        (.char c :: pieces, ending)

/- The fault of a string that stops short. -/
def Stop.fault : Stop → Fault
  | .unterminated => .ended .string
  | .controlCharacter => .controlCharacter
  | .unknownEscape => .invalidEscape
  | .badHex => .invalidEscape

/-
  The fault of an ending right after a leading surrogate,
  where a second hexadecimal escape was due.
-/
def faultInPair : Ending → Fault
  | .error .unterminated => .ended .string
  | .error .badHex => .invalidEscape
  | _ => .unfinishedPair

/- Leading surrogates open a pair, trailing ones close it. -/
def isLeading
    (n : Nat) : Bool :=
  0xd800 ≤ n && n ≤ 0xdbff

def isTrailing
    (n : Nat) : Bool :=
  0xdc00 ≤ n && n ≤ 0xdfff

/- The character of a surrogate pair. -/
def pairChar
    (leading trailing : Nat) : Char :=
  Char.ofNat
    (0x10000 + (leading - 0xd800) * 0x400 + (trailing - 0xdc00))

/-
  The characters that pieces write.  Surrogates are only
  allowed in pairs, and the first fault wins.
-/
def decode
    (ending : Ending) : List Piece → Except Fault (List Char)
  | [] =>
      match ending with
      | .ok _ => .ok []
      | .error stop => .error stop.fault
  | .char c :: rest => (c :: ·) <$> decode ending rest
  | .unit n :: rest =>
      if isTrailing n then
        .error .loneSurrogate
      else if isLeading n then
        match rest with
        | [] => .error (faultInPair ending)
        | .char _ :: _ => .error .unfinishedPair
        | .unit m :: rest =>
            if isTrailing m then
              (pairChar n m :: ·) <$> decode ending rest
            else
              .error .loneSurrogate
      else
        (Char.ofNat n :: ·) <$> decode ending rest

------------------------------------------------------------
-- Numbers
------------------------------------------------------------

/- The digits at the front of a text, and what follows them. -/
def spanDigits : List Char → List Digit × List Char
  | [] => ([], [])
  | c :: rest =>
      match Digit.ofChar? c with
      | none => ([], c :: rest)
      | some d =>
          let (digits, rest) := spanDigits rest
          (d :: digits, rest)

/-
  What is wrong with a number that lacks digits: a reader
  notices the end of the text, a skipper does not.
-/
structure Unreadable where
  reading : Fault
  skipping : Fault
deriving DecidableEq, Repr

def Unreadable.both
    (fault : Fault) : Unreadable :=
  ⟨fault, fault⟩

/- The fault of missing digits in front of the given text. -/
def withoutDigits : List Char → Unreadable
  | [] => ⟨.ended .value, .invalidNumber⟩
  | _ :: _ => .both .invalidNumber

/- The integer digits; a zero stands alone. -/
def scanWhole
    (text : List Char) :
    Except Unreadable (List Digit × List Char) :=
  match spanDigits text with
  | ([], rest) => .error (withoutDigits rest)
  | (0 :: _ :: _, _) => .error (.both .invalidNumber)
  | (digits, rest) => .ok (digits, rest)

/- The point and the digits after it, if there is a point. -/
def scanFraction : List Char →
    Except Unreadable (List Digit × List Char)
  | '.' :: text =>
      match spanDigits text with
      | ([], rest) => .error (withoutDigits rest)
      | (digits, rest) => .ok (digits, rest)
  | text => .ok ([], text)

/- The sign of an exponent, true for a minus. -/
def scanSign : List Char → Bool × List Char
  | '+' :: text => (false, text)
  | '-' :: text => (true, text)
  | text => (false, text)

/- The digits of an exponent after its mark. -/
def scanPower
    (text : List Char) :
    Except Unreadable (Option (Bool × List Digit) × List Char) :=
  let (negative, text) := scanSign text
  match spanDigits text with
  | ([], rest) => .error (withoutDigits rest)
  | (digits, rest) => .ok (some (negative, digits), rest)

/- The exponent, if there is one. -/
def scanExponent : List Char →
    Except Unreadable (Option (Bool × List Digit) × List Char)
  | 'e' :: text => scanPower text
  | 'E' :: text => scanPower text
  | text => .ok (none, text)

/- A number after its sign. -/
def scanNumber
    (negative : Bool)
    (text : List Char) :
    Except Unreadable (Numeral × List Char) := do
  let (whole, text) ← scanWhole text
  let (fraction, text) ← scanFraction text
  let (exponent, text) ← scanExponent text
  return (⟨negative, whole, fraction, exponent⟩, text)

------------------------------------------------------------
-- Tokens
------------------------------------------------------------

/- How an unreadable token begins. -/
inductive Start where
  | quote
  | null
  | other
deriving DecidableEq, Repr

/- A token of a JSON text. -/
inductive Token where
  | beginObject
  | endObject
  | beginList
  | endList
  | colon
  | comma
  | null
  | boolean (value : Bool)
  | number (literal : Numeral)
  | string (content : Except Fault String)
  | unreadable (start : Start) (why : Unreadable)
  | stray (c : Char)

/-
  The rest of a text after an expected keyword, or the fault
  of the first character that differs.
-/
def scanKeyword : List Char → List Char → Except Fault (List Char)
  | [], text => .ok text
  | _ :: _, [] => .error (.ended .value)
  | k :: keyword, c :: text =>
      if c = k then
        scanKeyword keyword text
      else
        .error .expectedKeyword

/- A keyword's token and the rest of the text, none at its fault. -/
def keywordToken
    (start : Start)
    (token : Token)
    (keyword text : List Char) : Token × Option (List Char) :=
  match scanKeyword keyword text with
  | .ok rest => (token, some rest)
  | .error fault => (.unreadable start (.both fault), none)

/- A number's token and the rest of the text. -/
def numberToken
    (negative : Bool)
    (text : List Char) : Token × Option (List Char) :=
  match scanNumber negative text with
  | .ok (literal, rest) => (.number literal, some rest)
  | .error why => (.unreadable .other why, none)

/-
  A string's token and the rest of the text.  A string that
  stops short has no decoding, only a first fault.
-/
def stringToken
    (text : List Char) : Token × Option (List Char) :=
  let (pieces, ending) := scanString text
  match ending, decode ending pieces with
  | .ok rest, content =>
      (.string (content.map String.ofList), some rest)
  | .error stop, .error fault =>
      (.unreadable .quote ⟨fault, stop.fault⟩, none)
  | .error stop, .ok _ =>
      (.unreadable .quote (.both stop.fault), none)

/- The four blanks that may stand between tokens. -/
def isBlank
    (c : Char) : Bool :=
  c == ' ' || c == '\t' || c == '\n' || c == '\r'

/-
  The token that begins with a character that is not a blank,
  and the rest of the text if the token can be passed.
-/
def firstToken
    (c : Char)
    (text : List Char) : Token × Option (List Char) :=
  match c with
  | '\x7b' => (.beginObject, some text)
  | '\x7d' => (.endObject, some text)
  | '[' => (.beginList, some text)
  | ']' => (.endList, some text)
  | ':' => (.colon, some text)
  | ',' => (.comma, some text)
  | '"' => stringToken text
  | 'n' => keywordToken .null .null ['u', 'l', 'l'] text
  | 't' => keywordToken .other (.boolean true) ['r', 'u', 'e'] text
  | 'f' =>
      keywordToken .other (.boolean false) ['a', 'l', 's', 'e'] text
  | '-' => numberToken true text
  | c =>
      if (Digit.ofChar? c).isSome then
        numberToken false (c :: text)
      else
        (.stray c, some text)

/-
  The tokens of a text.  Each step consumes a character, so
  fuel for every character is enough.
-/
def tokensWithin : Nat → List Char → List Token
  | 0, _ => []
  | _ + 1, [] => []
  | fuel + 1, c :: text =>
      if isBlank c then
        tokensWithin fuel text
      else
        match firstToken c text with
        | (token, some rest) => token :: tokensWithin fuel rest
        | (token, none) => [token]

/- The tokens of a text. -/
def tokens
    (text : List Char) : List Token :=
  tokensWithin text.length text

end SqlCompiler.Json

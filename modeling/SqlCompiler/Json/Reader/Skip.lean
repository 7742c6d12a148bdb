import SqlCompiler.Json.Reader.Basic

/-
  This file passes over a value that nobody asked for.  Its
  brackets are matched without a limit on nesting, and its
  strings and numbers only have to be well formed.

  Key definitions include:
    * `Json.Bracket`
    * `Json.Awaiting`
    * `Json.Skipping.step`
    * `Json.skipFrom`
    * `Json.Reader.skip`
-/

namespace SqlCompiler.Json

/- The two kinds of brackets. -/
inductive Bracket where
  | list
  | object
deriving DecidableEq, Repr

/- What may come next inside a skipped value. -/
inductive Awaiting where
  | value
  | firstItem
  | separator
  | key
  | colon
deriving DecidableEq, Repr

/-
  The state between two tokens: the open brackets, innermost
  first, and what may come next.
-/
structure Skipping where
  opened : List Bracket
  awaiting : Awaiting
deriving DecidableEq, Repr

namespace Skipping

/-
  The state after a complete value, none when no bracket is
  open any more.
-/
def afterValue
    (opened : List Bracket) : Option Skipping :=
  if opened.isEmpty then none else some ⟨opened, .separator⟩

/- The fault of a text that ends in this state. -/
def endedFault
    (state : Skipping) : Fault :=
  match state.awaiting, state.opened with
  | .value, _ => .ended .value
  | .key, _ => .ended .object
  | .colon, _ => .ended .object
  | _, .object :: _ => .ended .object
  | _, _ => .ended .list

/- A token in place of a value. -/
def onValue
    (opened : List Bracket) : Token → Except Fault (Option Skipping)
  | .null => .ok (afterValue opened)
  | .boolean _ => .ok (afterValue opened)
  | .number _ => .ok (afterValue opened)
  | .string _ => .ok (afterValue opened)
  | .beginList => .ok (some ⟨.list :: opened, .firstItem⟩)
  | .beginObject => .ok (some ⟨.object :: opened, .firstItem⟩)
  | .unreadable _ why => .error why.skipping
  | _ => .error .expectedValue

/- A token in place of a key. -/
def onKey
    (opened : List Bracket) : Token → Except Fault (Option Skipping)
  | .string _ => .ok (some ⟨opened, .colon⟩)
  | .unreadable .quote why => .error why.skipping
  | _ => .error .keyNotString

/-
  One token.  The answer is the next state, or none when the
  value is complete.
-/
def step
    (state : Skipping)
    (token : Token) : Except Fault (Option Skipping) :=
  match state.awaiting, state.opened, token with
  | .value, opened, token => onValue opened token
  | .key, opened, token => onKey opened token
  | .colon, opened, .colon => .ok (some ⟨opened, .value⟩)
  | .colon, _, _ => .error .expectedColon
  | _, .list :: opened, .endList => .ok (afterValue opened)
  | _, .object :: opened, .endObject => .ok (afterValue opened)
  | .firstItem, .object :: opened, token =>
      onKey (.object :: opened) token
  | .firstItem, opened, token => onValue opened token
  | .separator, .object :: opened, .comma =>
      .ok (some ⟨.object :: opened, .key⟩)
  | .separator, opened, .comma => .ok (some ⟨opened, .value⟩)
  | .separator, .object :: _, _ => .error .expectedCommaOrBrace
  | .separator, _, _ => .error .expectedCommaOrBracket

end Skipping

/- The tokens after the value that a state is in the middle of. -/
def skipFrom
    (state : Skipping) : List Token → Except Fault (List Token)
  | [] => .error state.endedFault
  | token :: rest =>
      match state.step token with
      | .error fault => .error fault
      | .ok none => .ok rest
      | .ok (some next) => skipFrom next rest

/- Pass over one value. -/
def Reader.skip : Reader Unit :=
  fun _ tokens =>
    (skipFrom ⟨[], .value⟩ tokens).map (((), ·))

end SqlCompiler.Json

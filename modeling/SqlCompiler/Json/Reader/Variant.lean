import SqlCompiler.Json.Reader.Basic

/-
  This file reads tagged values.  A variant without content is
  written as its name, or as an object that maps its name to
  null; any other variant as an object with one member.

  Key definitions include:
    * `Json.Payload`
    * `Json.Variant`
    * `Json.Reader.variant`
-/

namespace SqlCompiler.Json

/- What a variant carries, with the reader of its content. -/
inductive Payload (α : Type) where
  | nothing (result : α)
  | single (reader : Reader α)
  | record (reader : Reader α)

/- A variant: its name and what it carries. -/
structure Variant (α : Type) where
  name : String
  payload : Payload α

namespace Payload

/- The value of a variant written as its name alone. -/
def bare
    {α : Type} : Payload α → Except Fault α
  | .nothing result => .ok result
  | .single _ => .error (.wrongType .unitVariant "newtype variant")
  | .record _ => .error (.wrongType .unitVariant "struct variant")

/- The reader of the content that follows a variant's name. -/
def content
    {α : Type} : Payload α → Reader α
  | .nothing result => do
      Reader.unit
      pure result
  | .single reader => reader
  | .record reader => reader

end Payload

namespace Reader

/- The variant with the given name. -/
def chosen
    {α : Type}
    (variants : List (Variant α))
    (name : String) : Except Fault (Payload α) :=
  match variants.find? (·.name == name) with
  | some variant => .ok variant.payload
  | none => .error (.unknownVariant name (variants.map (·.name)))

/-
  The name and the content of a variant, after the opening
  brace.  An unknown name shows before the colon is read.
-/
def tagged
    {α : Type}
    (variants : List (Variant α)) : Reader α := do
  match ← memberKey true with
  | none => fail .expectedValue
  | some name =>
      let payload ← lift (chosen variants name)
      colon
      payload.content

/- The closing brace after the content of a variant. -/
def endOfVariant : Reader Unit :=
  fun _ tokens =>
    match tokens with
    | [] => .error (.ended .object)
    | .endObject :: rest => .ok ((), rest)
    | _ => .error .expectedValue

/- One of several variants. -/
def variant
    {α : Type}
    (variants : List (Variant α)) : Reader α :=
  fun room tokens =>
    match tokens with
    | [] => .error (.ended .value)
    | .string content :: rest => do
        let payload ← chosen variants (← content)
        let value ← payload.bare
        return (value, rest)
    | .unreadable .quote why :: _ => .error why.reading
    | .beginObject :: rest =>
        (do
          let value ← nested (tagged variants)
          endOfVariant
          pure value : Reader α) room rest
    | _ => .error .expectedValue

end Reader

end SqlCompiler.Json

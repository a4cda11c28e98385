import KontaktScript.Json.Number
import KontaktScript.Text.Quoted
import KontaktScript.Uri.Basic

/-!
# Decoding JSON values

A structure is decoded from an object: the fields that are present in the order
of their names, then the first that is missing in the order of declaration is
the fault.  Most structures may also be written as an array of their fields in
the order of declaration.
-/

namespace KontaktScript

open Text

inductive DecodeError where
  | invalidType (found : Json) (expected : String)
  | invalidValue (found : Json) (expected : String)
  | invalidLength (length : Nat) (expected : String)
  | missingField (name : String)
  | noVariant (name : String)
  | invalidUri (cause : UriError) (text : String)

/-- A value as an error message names it. -/
def Json.described : Json → String
  | .null => "null"
  | .bool value => "boolean `" ++ toString value ++ "`"
  | .int value => "integer `" ++ toString value ++ "`"
  | .float value => "floating point `" ++ floatText value ++ "`"
  | .string value => "string " ++ quoted value
  | .array _ => "sequence"
  | .object _ => "map"

def DecodeError.message : DecodeError → String
  | invalidType found expected =>
      "invalid type: " ++ found.described ++ ", expected " ++ expected
  | invalidValue found expected =>
      "invalid value: " ++ found.described ++ ", expected " ++ expected
  | invalidLength length expected =>
      "invalid length " ++ toString length ++ ", expected " ++ expected
  | missingField name => "missing field `" ++ name ++ "`"
  | noVariant name => "data did not match any variant of untagged enum " ++ name
  | invalidUri cause text => cause.message ++ ": " ++ quoted text

abbrev Decoder (α : Type) := Json → Except DecodeError α

namespace Decoder

def bool : Decoder Bool
  | .bool value => .ok value
  | json => .error (.invalidType json "a boolean")

def string : Decoder String
  | .string value => .ok value
  | json => .error (.invalidType json "a string")

def value : Decoder Json := .ok

def int32 : Decoder Int32
  | .int value =>
      if -2147483648 ≤ value ∧ value ≤ 2147483647 then .ok (Int32.ofInt value)
      else .error (.invalidValue (.int value) "i32")
  | json => .error (.invalidType json "i32")

def uint32 : Decoder UInt32
  | .int value =>
      if 0 ≤ value ∧ value ≤ 4294967295 then .ok value.toNat.toUInt32
      else .error (.invalidValue (.int value) "u32")
  | json => .error (.invalidType json "u32")

def uri : Decoder Uri
  | .string text =>
      match Uri.parse text with
      | .ok uri => .ok uri
      | .error cause => .error (.invalidUri cause text)
  | json => .error (.invalidType json "a string representing an URL")

/-- Null counts as absent. -/
def nullable {α : Type} (decode : Decoder α) : Decoder (Option α)
  | .null => .ok none
  | json => (decode json).map some

def items {α : Type} (decode : Decoder α) : List Json → Except DecodeError (List α)
  | [] => .ok []
  | json :: rest => do
      let first ← decode json
      let others ← items decode rest
      return first :: others

def list {α : Type} (decode : Decoder α) : Decoder (List α)
  | .array values => items decode values
  | json => .error (.invalidType json "a sequence")

def present? {α : Type} (fields : Json.Fields) (name : String) (decode : Decoder α) :
    Except DecodeError (Option α) :=
  match fields.lookup name with
  | some json => (decode json).map some
  | none => .ok none

/-- Decodes a field that may be absent or null. -/
def optionalField {α : Type} (fields : Json.Fields) (name : String) (decode : Decoder α) :
    Except DecodeError (Option α) := do
  return (← present? fields name (nullable decode)).join

def required {α : Type} (name : String) : Option α → Except DecodeError α
  | some value => .ok value
  | none => .error (.missingField name)

/-- A structure's name and the number of its fields. -/
structure Shape where
  name : String
  arity : Nat

def Shape.expected (shape : Shape) : String :=
  "struct " ++ shape.name

def elementCount (n : Nat) : String :=
  if n = 1 then "1 element" else toString n ++ " elements"

def element {α : Type} (shape : Shape) (values : List Json) (i : Nat) (decode : Decoder α) :
    Except DecodeError α :=
  match values[i]? with
  | some json => decode json
  | none => .error (.invalidLength i (shape.expected ++ " with " ++ elementCount shape.arity))

/-- Whether a structure is read from the message itself or from a part of it
that was set aside first, which is told apart only in the complaint about an
array that is too long. -/
inductive Origin where
  | direct
  | buffered

/-- Insists that an array has no more elements than the structure fields. -/
def noMore (origin : Origin) (shape : Shape) (values : List Json) : Except DecodeError Unit :=
  if values.length ≤ shape.arity then .ok ()
  else
    .error (.invalidLength values.length (match origin with
      | .direct => "fewer elements in array"
      | .buffered => elementCount shape.arity ++ " in sequence"))

end Decoder

end KontaktScript

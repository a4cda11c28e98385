import KontaktScript.Json.Decode

/-!
# Checking JSON values

A value of which little or nothing is used may still have to look right.  A
check says whether it does.  A structure is an object with the members it
needs, or an array of its members in order.
-/

namespace KontaktScript

abbrev Check := Json → Bool

structure Member where
  name : String
  check : Check
  /-- Whether an object must have it. -/
  isNeeded : Bool
  /-- Whether an array may end before it. -/
  isTrailing : Bool

namespace Check

def any : Check := fun _ => true

/-- The values that a decoder takes. -/
def ofDecoder {α : Type} (decode : Decoder α) : Check :=
  fun json => (decode json).toOption.isSome

def bool : Check := ofDecoder Decoder.bool

def int32 : Check := ofDecoder Decoder.int32

def uint32 : Check := ofDecoder Decoder.uint32

def string : Check := ofDecoder Decoder.string

def uri : Check := ofDecoder Decoder.uri

def orNull (check : Check) : Check := fun json =>
  json.isNull || check json

def list (check : Check) : Check
  | .array values => values.all check
  | _ => false

/-- One of several names, by itself or as the only member of an object, which is
null then. -/
def choice (names : List String) : Check
  | .string name => names.contains name
  | .object [(name, .null)] => names.contains name
  | _ => false

def record (members : List Member) : Check
  | .object fields => members.all fun member =>
      match fields.lookup member.name with
      | some value => member.check value
      | none => !member.isNeeded
  | .array values =>
      values.length ≤ members.length &&
        (members.zipIdx.all fun (member, i) =>
          match values[i]? with
          | some value => member.check value
          | none => member.isTrailing)
  | _ => false

end Check

namespace Member

/-- A member that must be there. -/
def needed (name : String) (check : Check) : Member :=
  ⟨name, check, true, false⟩

/-- A member that may be absent or null. -/
def optional (name : String) (check : Check) : Member :=
  ⟨name, check.orNull, false, false⟩

/-- A member that may be absent, null, or beyond the end of an array. -/
def trailing (name : String) (check : Check) : Member :=
  ⟨name, check.orNull, false, true⟩

def flag (name : String) : Member :=
  optional name .bool

def value? (members : List Member) (name : String) : Json → Option Json
  | .object fields => fields.lookup name
  | .array values => do values[← members.findIdx? (·.name = name)]?
  | _ => none

end Member

end KontaktScript

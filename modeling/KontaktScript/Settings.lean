import KontaktScript.Json.Decode

/-!
# Settings

What the user can set.  Settings come either by themselves or as the section
`ksp` of a larger object.
-/

namespace KontaktScript

structure Settings where
  hoverBuiltins : Bool := true
  completeBuiltins : Bool := true
  deriving DecidableEq, Repr

namespace Settings

def default : Settings := {}

def sectionName : String := "ksp"

def shape : Decoder.Shape := ⟨"Config", 2⟩

/-- An element of settings written as an array; what is left out has its
default. -/
def element (values : List Json) (i : Nat) : Except DecodeError Bool :=
  match values[i]? with
  | some json => Decoder.bool json
  | none => .ok true

def decodeSection : Decoder Settings
  | .object fields => do
      let completeBuiltins ← Decoder.present? fields "completeBuiltins" Decoder.bool
      let hoverBuiltins ← Decoder.present? fields "hoverBuiltins" Decoder.bool
      return ⟨hoverBuiltins.getD true, completeBuiltins.getD true⟩
  | .array values => do
      let hoverBuiltins ← element values 0
      let completeBuiltins ← element values 1
      Decoder.noMore .direct shape values
      return ⟨hoverBuiltins, completeBuiltins⟩
  | json => .error (.invalidType json shape.expected)

/-- The settings that a configuration holds: its section if it has one, else
the configuration itself.  Null stands for the defaults. -/
def decode : Decoder Settings := fun json =>
  match (json.field? sectionName).getD json with
  | .null => .ok default
  | json => decodeSection json

end Settings

end KontaktScript

/-!
# JSON values

An object is a list of fields in the order in which they were written, and may
name one field twice.  Its canonical form has the fields in ascending order of
their names, the last of several equal names winning; values are decoded from
that form.
-/

namespace KontaktScript

inductive Json where
  | null
  | bool (value : Bool)
  | int (value : Int)
  | float (value : Float)
  | string (value : String)
  | array (items : List Json)
  | object (fields : List (String × Json))
  deriving Inhabited

namespace Json

abbrev Fields := List (String × Json)

/-- Sets a field of a list in ascending order of names. -/
def setField (name : String) (value : Json) : Fields → Fields
  | [] => [(name, value)]
  | (other, old) :: rest =>
      if name < other then (name, value) :: (other, old) :: rest
      else if name = other then (name, value) :: rest
      else (other, old) :: setField name value rest

/-- The fields in ascending order of names, the last of equal names winning. -/
def sortFields (fields : Fields) : Fields :=
  fields.foldl (fun sorted field => setField field.1 field.2 sorted) []

mutual

/-- The value with every object in canonical form. -/
def canonical : Json → Json
  | .array items => .array (canonicalItems items)
  | .object fields => .object (sortFields (canonicalFields fields))
  | .null => .null
  | .bool value => .bool value
  | .int value => .int value
  | .float value => .float value
  | .string value => .string value

def canonicalItems : List Json → List Json
  | [] => []
  | item :: items => canonical item :: canonicalItems items

def canonicalFields : Fields → Fields
  | [] => []
  | (name, value) :: fields => (name, canonical value) :: canonicalFields fields

end

def ofFields (fields : Fields) : Json :=
  .object (sortFields fields)

/-- The field of an object; `none` for any other value. -/
def field? (json : Json) (name : String) : Option Json :=
  match json with
  | .object fields => fields.lookup name
  | _ => none

def object? : Json → Option Fields
  | .object fields => some fields
  | _ => none

def array? : Json → Option (List Json)
  | .array items => some items
  | _ => none

def string? : Json → Option String
  | .string value => some value
  | _ => none

def isNull : Json → Bool
  | .null => true
  | _ => false

end Json

end KontaktScript

import KontaktScript.Json.Number
import KontaktScript.Text.Quoted

/-!
# Values in diagnostics

A value spelled out with the kind of each of its parts, for messages about
requests that came at the wrong time.
-/

namespace KontaktScript.Json

open Text

mutual

def dumped : Json → String
  | .null => "Null"
  | .bool value => "Bool(" ++ toString value ++ ")"
  | .int value => "Number(" ++ toString value ++ ")"
  | .float value => "Number(" ++ floatText value ++ ")"
  | .string value => "String(" ++ quoted value ++ ")"
  | .array items => "Array [" ++ ", ".intercalate (dumpedItems items) ++ "]"
  | .object fields => "Object \x7b" ++ ", ".intercalate (dumpedFields fields) ++ "\x7d"

def dumpedItems : List Json → List String
  | [] => []
  | item :: items => dumped item :: dumpedItems items

def dumpedFields : Fields → List String
  | [] => []
  | (name, value) :: fields => (quoted name ++ ": " ++ dumped value) :: dumpedFields fields

end

end KontaktScript.Json

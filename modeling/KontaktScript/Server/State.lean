import KontaktScript.Protocol.Message
import KontaktScript.Server.Store
import KontaktScript.Settings

/-!
# The state of the server

What the server knows between two messages: the documents that the editor has
open, the settings, and the requests that the server itself has sent and that
the editor has not answered.
-/

namespace KontaktScript

structure State where
  documents : Store
  settings : Settings
  /-- The id of the next request to the editor. -/
  nextId : Int32
  /-- The ids of requests to the editor that it has not answered. -/
  awaiting : List RequestId
  pull : Bool

namespace State

def start (options : Option Json) (pull : Bool) : State where
  documents := .empty
  settings :=
    match options.map Settings.decode with
    | some (.ok settings) => settings
    | _ => .default
  nextId := 0
  awaiting := []
  pull := pull

/-- The id after another; behind the largest comes zero. -/
def idAfter (id : Int32) : Int32 :=
  if id = Int32.maxValue then 0 else id + 1

end State

end KontaktScript

import KontaktScript.Json.Decode

/-!
# Messages

A message is told apart by its members: with an `id` and a `method` it is a
request, with an `id` alone a response, with a `method` alone a notification.
A member that does not fit rules the first readings out, so a request whose id
is no id is a notification.  An array of members is never a notification, as
its first element is an id.
-/

namespace KontaktScript

inductive RequestId where
  | number (value : Int32)
  | name (value : String)
  deriving DecidableEq, Repr

structure ResponseError where
  code : Int32
  message : String
  deriving DecidableEq, Repr

structure Response where
  id : RequestId
  result : Option Json
  error : Option ResponseError

structure Request where
  id : RequestId
  method : String
  params : Json

structure Notification where
  method : String
  params : Json

/-- A message from the editor.  Of the error of a response nothing is used. -/
inductive Incoming where
  | request (id : RequestId) (method : String) (params : Json)
  | response (id : RequestId) (result : Option Json)
  | notification (method : String) (params : Json)

inductive Outgoing where
  | request (id : RequestId) (method : String) (params : Json)
  | response (response : Response)
  | notification (method : String) (params : Json)

namespace RequestId

def toJson : RequestId → Json
  | number value => .int value.toInt
  | name value => .string value

/-- An id is a 32-bit integer or a string. -/
def read? : Json → Option RequestId
  | .string value => some (name value)
  | json => (Decoder.int32 json).toOption.map number

end RequestId

/-! ## Reading -/

namespace Incoming

/-- The member of a message; the outer `none` if the message has it twice. -/
def member? (fields : Json.Fields) (name : String) : Option (Option Json) :=
  match fields.filter (·.1 = name) with
  | [] => some none
  | [(_, value)] => some (some value)
  | _ => none

/-- The members of a message by name.  A message may also be an array of its
members in order, of which the last ones may be missing where they are not
`needed`. -/
def members? (names : List String) (needed : Nat) : Json → Option (List (Option Json))
  | .object fields => names.mapM (member? fields)
  | .array values =>
      if needed ≤ values.length ∧ values.length ≤ names.length then
        some ((List.range names.length).map (values[·]?))
      else none
  | _ => none

def params (member : Option Json) : Json :=
  (member.getD .null).canonical

def readRequest? (json : Json) : Option Incoming := do
  match ← members? ["id", "method", "params"] 2 json with
  | [some id, some (.string method), body] =>
      return .request (← RequestId.read? id) method (params body)
  | _ => none

def isError (json : Json) : Bool :=
  match members? ["code", "message", "data"] 2 json with
  | some [some code, some (.string _), _] => (Decoder.int32 code).toOption.isSome
  | _ => false

def readResponse? (json : Json) : Option Incoming := do
  match ← members? ["id", "result", "error"] 1 json with
  | [some id, result, error] =>
      let id ← RequestId.read? id
      let result := (result.map Json.canonical).filter (!·.isNull)
      match error with
      | none => return .response id result
      | some error => if error.isNull || isError error then return .response id result else none
  | _ => none

def readNotification? (json : Json) : Option Incoming := do
  match ← members? ["method", "params"] 1 json with
  | [some (.string method), body] => return .notification method (params body)
  | _ => none

def read? (json : Json) : Option Incoming :=
  readRequest? json <|> readResponse? json <|> readNotification? json

/-- The request after which no more requests come. -/
def isShutdown : Incoming → Bool
  | request _ method _ => method = "shutdown"
  | _ => false

/-- The notification that ends the conversation. -/
def isExit : Incoming → Bool
  | notification method _ => method = "exit"
  | _ => false

end Incoming

/-! ## Writing -/

def ResponseError.toJson (error : ResponseError) : Json :=
  .object [("code", .int error.code.toInt), ("message", .string error.message)]

/-- Absent members are left out; a null result is written. -/
def Response.toJson (response : Response) : Json :=
  .object ([("id", response.id.toJson)] ++
    (response.result.map fun result => ("result", result)).toList ++
    (response.error.map fun error => ("error", error.toJson)).toList)

def Outgoing.toJson : Outgoing → Json
  | .request id method params =>
      .object [("id", id.toJson), ("method", .string method), ("params", params)]
  | .response reply => reply.toJson
  | .notification method params =>
      .object [("method", .string method), ("params", params)]

end KontaktScript

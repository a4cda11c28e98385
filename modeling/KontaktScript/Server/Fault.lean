import KontaktScript.Protocol.Message

/-!
# Faults

What can go wrong while a message is handled, and the response that tells the
editor.
-/

namespace KontaktScript

inductive Fault where
  /-- A failure that is a response already. -/
  | response (response : Response)
  | send
  /-- Something failed, for the given reason if one is known. -/
  | process (reason : Option String) (context : String)

namespace Fault

def protocol (reason : String) : Fault :=
  process (some reason) "Language Server Protocol error"

def json (reason : String) : Fault :=
  process (some reason) "JSON (de)serialization failure"

def stream (reason : String) : Fault :=
  process (some reason) "I/O failure"

def malformed (method : String) (cause : DecodeError) : Fault :=
  process (some cause.message) ("malformed `" ++ method ++ "` parameters")

def unsupported (method : String) : Fault :=
  process none ("unsupported request: `" ++ method ++ "`")

end Fault

def RequestId.described : RequestId → String
  | number value => "RequestId(I32(" ++ toString value.toInt ++ "))"
  | name value => "RequestId(String(" ++ Text.quoted value ++ "))"

def Fault.message : Fault → String
  | .response reply =>
      "request " ++ reply.id.described ++ " failed" ++
        match reply.error with
        | some error => ": " ++ error.message
        | none => ""
  | send => "failed to send a message: sending on a disconnected channel"
  | process (some reason) context => context ++ ": " ++ reason
  | process none context => context

/-- The response that tells the editor about a fault. -/
def Fault.toResponse (id : RequestId) (code : Int32) : Fault → Response
  | .response reply => reply
  | fault => ⟨id, none, some ⟨code, fault.message⟩⟩

def Fault.answering (id : RequestId) (code : Int32) (fault : Fault) : Fault :=
  .response (fault.toResponse id code)

def notInitializedCode : Int32 := -32002

def methodNotFoundCode : Int32 := -32601

def invalidParamsCode : Int32 := -32602

def internalErrorCode : Int32 := -32603

end KontaktScript

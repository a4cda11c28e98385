import KontaktScript.Json.Decode
import KontaktScript.Position

/-!
# Queries

The requests that the server answers, and how their parameters are decoded.
The parameters of a query mix its own members with those of the place asked
about and with progress tokens; the parts are decoded one after another.
-/

namespace KontaktScript

inductive Query where
  | hover (uri : Uri) (position : Position)
  | outline (uri : Uri)
  | definition (uri : Uri) (position : Position)
  | completion (uri : Uri) (position : Position)
  deriving DecidableEq, Repr

def Query.uri : Query → Uri
  | hover uri _ => uri
  | outline uri => uri
  | definition uri _ => uri
  | completion uri _ => uri

namespace Decoder

def positionShape : Shape := ⟨"Position", 2⟩

def position (origin : Origin) : Decoder Position
  | .object fields => do
      let character ← present? fields "character" uint32
      let line ← present? fields "line" uint32
      return ⟨← required "line" line, ← required "character" character⟩
  | .array values => do
      let line ← element positionShape values 0 uint32
      let character ← element positionShape values 1 uint32
      noMore origin positionShape values
      return ⟨line, character⟩
  | json => .error (.invalidType json positionShape.expected)

def documentShape : Shape := ⟨"TextDocumentIdentifier", 1⟩

def document (origin : Origin) : Decoder Uri
  | .object fields => do required "uri" (← present? fields "uri" uri)
  | .array values => do
      let uri ← element documentShape values 0 uri
      noMore origin documentShape values
      return uri
  | json => .error (.invalidType json documentShape.expected)

/-- The document and the position in it, a part of the parameters. -/
def place (fields : Json.Fields) : Except DecodeError (Uri × Position) := do
  let position ← present? fields "position" (position .buffered)
  let uri ← present? fields "textDocument" (document .buffered)
  return (← required "textDocument" uri, ← required "position" position)

/-- A progress token is an integer or a string. -/
def progressToken : Decoder Unit
  | .string _ => .ok ()
  | json =>
      match int32 json with
      | .ok _ => .ok ()
      | .error _ => .error (.noVariant "NumberOrString")

/-- Checks a progress token, which may be absent or null. -/
def progress (fields : Json.Fields) (name : String) : Except DecodeError Unit := do
  let _ ← optionalField fields name progressToken
  return ()

def contextShape : Shape := ⟨"CompletionContext", 2⟩

/-- What made the editor ask for completion; it does not change the answer. -/
def completionContext : Decoder Unit
  | .object fields => do
      let _ ← optionalField fields "triggerCharacter" string
      let kind ← present? fields "triggerKind" int32
      let _ ← required "triggerKind" kind
      return ()
  | .array values => do
      let _ ← element contextShape values 0 int32
      let _ ← element contextShape values 1 (nullable string)
      noMore .direct contextShape values
  | json => .error (.invalidType json contextShape.expected)

end Decoder

inductive Method where
  | hover
  | outline
  | definition
  | completion
  deriving DecidableEq, Repr

namespace Method

open Decoder

def all : List Method := [hover, outline, definition, completion]

def name : Method → String
  | hover => "textDocument/hover"
  | outline => "textDocument/documentSymbol"
  | definition => "textDocument/definition"
  | completion => "textDocument/completion"

/-- The name of the parameters in error messages. -/
def parameters : Method → String
  | hover => "HoverParams"
  | outline => "DocumentSymbolParams"
  | definition => "GotoDefinitionParams"
  | completion => "CompletionParams"

def decodeFields (method : Method) (fields : Json.Fields) : Except DecodeError Query := do
  match method with
  | hover =>
      let (uri, position) ← place fields
      progress fields "workDoneToken"
      return .hover uri position
  | outline =>
      let uri ← required "textDocument" (← present? fields "textDocument" (document .direct))
      progress fields "workDoneToken"
      progress fields "partialResultToken"
      return .outline uri
  | definition =>
      let (uri, position) ← place fields
      progress fields "workDoneToken"
      progress fields "partialResultToken"
      return .definition uri position
  | completion =>
      let _ ← optionalField fields "context" completionContext
      let (uri, position) ← place fields
      progress fields "workDoneToken"
      progress fields "partialResultToken"
      return .completion uri position

def decode (method : Method) : Decoder Query
  | .object fields => method.decodeFields fields
  | json => .error (.invalidType json ("struct " ++ method.parameters))

end Method

end KontaktScript

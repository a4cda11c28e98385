import KontaktScript.Feature.Completion
import KontaktScript.Feature.Definition
import KontaktScript.Feature.Hover
import KontaktScript.Feature.Outline
import KontaktScript.Protocol.Query
import KontaktScript.Server.Action

/-!
# Answering requests

A query about a document that is not open or not a script is answered with null,
as is a query about a place where there is nothing to tell.  Requests that are no
queries, and queries that cannot be decoded, are answered with an error.
-/

namespace KontaktScript.Action

/-- Goes on with the identifier at a position, or answers with null. -/
def atIdentifier (id : RequestId) (doc : Document) (position : Position)
    (next : Token → Action Unit) : Action Unit := do
  let some token := Token.at? doc (doc.pointOf position) | respondNull id
  if isIdentifier token.text then next token else respondNull id

def hover (tables : Tables) (id : RequestId) (doc : Document) (position : Position) :
    Action Unit :=
  atIdentifier id doc position fun token => do
    let settings := (← get).state.settings
    let some contents := Hover.contents? tables settings doc token.text | respondNull id
    respond id (Hover.toJson { contents, range := doc.rangeOf token.span })

def outline (id : RequestId) (doc : Document) : Action Unit :=
  respond id (.array ((KontaktScript.outline doc).map OutlineEntry.toJson))

def definition (id : RequestId) (uri : Uri) (doc : Document) (position : Position) :
    Action Unit :=
  atIdentifier id doc position fun token => do
    let some declaration := resolve? (declarations doc none) token.text | respondNull id
    respond id (Location.toJson { uri, range := doc.rangeOf declaration.nameSpan })

def completion (tables : Tables) (id : RequestId) (doc : Document) (position : Position) :
    Action Unit := do
  let builtins := (← get).state.settings.completeBuiltins
  let line := (doc.pointOf position).line.toNat
  respond id (.array ((completions tables doc line builtins).map CompletionItem.toJson))

def onQuery (tables : Tables) (id : RequestId) (query : Query) : Action Unit := do
  let some source := (← get).state.documents.get? query.uri | respondNull id
  match source.language with
  | .unknown => respondNull id
  | .ksp =>
      match query with
      | .hover _ position => hover tables id source.document position
      | .outline _ => outline id source.document
      | .definition uri position => definition id uri source.document position
      | .completion _ position => completion tables id source.document position

/-- The route of the queries with one method. -/
def tryQuery (tables : Tables) (method : Method) (request : Request) :
    Action (Flow Request) :=
  if request.method = method.name then
    match method.decode request.params with
    | .ok query => return .done (← observing (onQuery tables request.id query))
    | .error cause =>
        return .done (.error ((Fault.malformed request.method cause).answering request.id
          invalidParamsCode))
  else return .pass request

/-- Fails only if the editor is gone. -/
def onRequest (tables : Tables) (request : Request) : Action Unit := do
  match ← dispatch (Method.all.map (tryQuery tables)) request with
  | .done (.error (.process reason context)) =>
      report (.error ((Fault.process reason context).answering request.id internalErrorCode))
  | .done result => report result
  | .pass request =>
      report (.error ((Fault.unsupported request.method).answering request.id
        methodNotFoundCode))

end KontaktScript.Action

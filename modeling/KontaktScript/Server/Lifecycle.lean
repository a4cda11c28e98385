import KontaktScript.Json.Dump
import KontaktScript.Protocol.Introduction
import KontaktScript.Server.Conversation

/-!
# The life of a server

A server waits for the editor to introduce itself, answers with what it can do,
waits for the confirmation, and then converses until the end.
-/

namespace KontaktScript

/-- What the server can do.  Typing a sigil asks for completion. -/
def capabilities : Json :=
  .object [
    ("textDocumentSync", .object [("openClose", .bool true), ("change", .int 1)]),
    ("completionProvider", .object [("triggerCharacters",
      .array (VarType.all.map fun type => .string (String.ofList [type.sigil])))]),
    ("definitionProvider", .bool true),
    ("documentSymbolProvider", .bool true),
    ("hoverProvider", .bool true)]

inductive Life where
  /-- The editor has not introduced itself. -/
  | awaited
  /-- The introduction was answered and waits for its confirmation. -/
  | introduced (params : Json)
  | conversing (stage : Stage)
  | failed (fault : Fault)

namespace Life

def tooEarly (id : RequestId) (method : String) (params : Json) : Response :=
  let dump := "Request \x7b id: " ++ id.described ++ ", method: " ++ Text.quoted method ++
    ", params: " ++ params.dumped ++ " \x7d"
  ⟨id, none, some ⟨notInitializedCode, "expected initialize request, got " ++ dump⟩⟩

/-- Begins the conversation with an editor that introduced itself. -/
def converse (params : Json) : Life × List Outgoing :=
  match Introduction.read? params with
  | none => (failed (.json "malformed introduction"), [])
  | some introduction =>
      let state := State.start introduction.options introduction.pull
      match Stage.carryOut .live state .askSettings with
      | (stage, sent) => (conversing stage, sent)

def step (tables : Tables) : Life → Incoming → Life × List Outgoing
  | awaited, .request id method params =>
      if method = "initialize" then
        (introduced params,
          [.response ⟨id, some (.object [("capabilities", capabilities)]), none⟩])
      else (awaited, [.response (tooEarly id method params)])
  | awaited, message =>
      match message with
      | .notification _ _ =>
          if message.isExit then (failed (.protocol "expected initialize request"), [])
          else (awaited, [])
      | _ => (failed (.protocol "expected initialize request"), [])
  | introduced params, .notification method _ =>
      if method = "initialized" then converse params
      else (failed (.protocol "expected initialized notification"), [])
  | introduced _, _ => (failed (.protocol "expected initialized notification"), [])
  | conversing stage, message =>
      match stage.step tables .live message with
      | (next, sent) => (conversing next, sent)
  | failed fault, _ => (failed fault, [])

def atEnd : Life → Option Fault
  | awaited => some (.protocol "disconnected channel")
  | introduced _ => some (.protocol "disconnected channel")
  | conversing stage => stage.atEnd
  | failed fault => some fault

/-- Whether no further message can change anything. -/
def isOver : Life → Bool
  | conversing (.ended _ _) => true
  | failed _ => true
  | _ => false

/-- Handles messages until they run out: all messages sent and the fault, if
there is one. -/
def run (tables : Tables) : Life → List Incoming → List Outgoing × Option Fault
  | life, [] => ([], life.atEnd)
  | life, message :: rest =>
      match life.step tables message with
      | (next, sent) =>
          match run tables next rest with
          | (more, fault) => (sent ++ more, fault)

end Life

end KontaktScript

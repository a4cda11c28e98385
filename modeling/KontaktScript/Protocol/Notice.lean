import KontaktScript.Protocol.Query

/-!
# Notices

The notifications that the server acts upon, and how their parameters are
decoded.
-/

namespace KontaktScript

/-- One of the changes that a notification reports.  A change without a range
replaces the whole text. -/
structure Change where
  range : Option Range
  text : String
  deriving DecidableEq, Repr

inductive Notice where
  | opened (uri : Uri) (languageId : String) (version : Int32) (text : String)
  | changed (uri : Uri) (version : Int32) (changes : List Change)
  | closed (uri : Uri)
  | configured (settings : Json)

/-- The text that the last whole-text change leaves. -/
def fullText? (changes : List Change) : Option String :=
  (changes.reverse.find? (·.range.isNone)).map Change.text

namespace Decoder

def rangeShape : Shape := ⟨"Range", 2⟩

def range : Decoder Range
  | .object fields => do
      let stop ← present? fields "end" (position .direct)
      let start ← present? fields "start" (position .direct)
      return ⟨← required "start" start, ← required "end" stop⟩
  | .array values => do
      let start ← element rangeShape values 0 (position .direct)
      let stop ← element rangeShape values 1 (position .direct)
      noMore .direct rangeShape values
      return ⟨start, stop⟩
  | json => .error (.invalidType json rangeShape.expected)

def changeShape : Shape := ⟨"TextDocumentContentChangeEvent", 3⟩

def change : Decoder Change
  | .object fields => do
      let range ← optionalField fields "range" range
      let _ ← optionalField fields "rangeLength" uint32
      let text ← present? fields "text" string
      return ⟨range, ← required "text" text⟩
  | .array values => do
      let range ← element changeShape values 0 (nullable range)
      let _ ← element changeShape values 1 (nullable uint32)
      let text ← element changeShape values 2 string
      noMore .direct changeShape values
      return ⟨range, text⟩
  | json => .error (.invalidType json changeShape.expected)

def itemShape : Shape := ⟨"TextDocumentItem", 4⟩

def item : Decoder Notice
  | .object fields => do
      let languageId ← present? fields "languageId" string
      let text ← present? fields "text" string
      let uri ← present? fields "uri" uri
      let version ← present? fields "version" int32
      return .opened (← required "uri" uri) (← required "languageId" languageId)
        (← required "version" version) (← required "text" text)
  | .array values => do
      let uri ← element itemShape values 0 uri
      let languageId ← element itemShape values 1 string
      let version ← element itemShape values 2 int32
      let text ← element itemShape values 3 string
      noMore .direct itemShape values
      return .opened uri languageId version text
  | json => .error (.invalidType json itemShape.expected)

def versionedShape : Shape := ⟨"VersionedTextDocumentIdentifier", 2⟩

def versioned : Decoder (Uri × Int32)
  | .object fields => do
      let uri ← present? fields "uri" uri
      let version ← present? fields "version" int32
      return (← required "uri" uri, ← required "version" version)
  | .array values => do
      let uri ← element versionedShape values 0 uri
      let version ← element versionedShape values 1 int32
      noMore .direct versionedShape values
      return (uri, version)
  | json => .error (.invalidType json versionedShape.expected)

/-- A structure with a single field. -/
def single {α : Type} (structureName field : String) (decode : Decoder α) : Decoder α
  | .object fields => do required field (← present? fields field decode)
  | .array values => do
      let value ← element ⟨structureName, 1⟩ values 0 decode
      noMore .direct ⟨structureName, 1⟩ values
      return value
  | json => .error (.invalidType json (Shape.expected ⟨structureName, 1⟩))

def changedShape : Shape := ⟨"DidChangeTextDocumentParams", 2⟩

def changed : Decoder Notice
  | .object fields => do
      let changes ← present? fields "contentChanges" (list change)
      let document ← present? fields "textDocument" versioned
      let (uri, version) ← required "textDocument" document
      return .changed uri version (← required "contentChanges" changes)
  | .array values => do
      let (uri, version) ← element changedShape values 0 versioned
      let changes ← element changedShape values 1 (list change)
      noMore .direct changedShape values
      return .changed uri version changes
  | json => .error (.invalidType json changedShape.expected)

end Decoder

inductive Topic where
  | opened
  | changed
  | closed
  | configured
  deriving DecidableEq, Repr

namespace Topic

open Decoder

def all : List Topic := [opened, changed, closed, configured]

def name : Topic → String
  | opened => "textDocument/didOpen"
  | changed => "textDocument/didChange"
  | closed => "textDocument/didClose"
  | configured => "workspace/didChangeConfiguration"

def decode (topic : Topic) (params : Json) : Except DecodeError Notice :=
  match topic with
  | opened => single "DidOpenTextDocumentParams" "textDocument" item params
  | changed => Decoder.changed params
  | closed =>
      (single "DidCloseTextDocumentParams" "textDocument" (document .direct) params).map .closed
  | configured =>
      (single "DidChangeConfigurationParams" "settings" value params).map .configured

end Topic

end KontaktScript

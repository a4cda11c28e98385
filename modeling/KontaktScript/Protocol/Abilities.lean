import KontaktScript.Json.Check

/-!
# What an editor can do

The structures with which an editor describes its abilities.  The server needs
to know one of them; the others only have to look right.
-/

namespace KontaktScript.Abilities

open Member (flag needed optional trailing)

def markup : Check := .choice ["plaintext", "markdown"]

def registration : Check := .record [flag "dynamicRegistration"]

def refresh : Check := .record [flag "refreshSupport"]

/-- A set of numbers that stand for kinds. -/
def kinds : Check := .record [optional "valueSet" (.list .int32)]

/-- The tags an editor knows, or whether it knows any. -/
def tags : Check := fun json =>
  Check.bool json || Check.record [needed "valueSet" (.list .int32)] json

/-- The members that can be filled in later. -/
def resolution : Check := .record [needed "properties" (.list .string)]

def workspaceEdit : Check := .record
  [flag "documentChanges",
   optional "resourceOperations" (.list (.choice ["create", "rename", "delete"])),
   optional "failureHandling"
     (.choice ["abort", "transactional", "textOnlyTransactional", "undo"]),
   flag "normalizesLineEndings",
   optional "changeAnnotationSupport" (.record [flag "groupsOnLabel"])]

def workspaceSymbol : Check := .record
  [flag "dynamicRegistration",
   optional "symbolKind" kinds,
   trailing "tagSupport" tags,
   optional "resolveSupport" resolution]

def fileOperations : Check := .record
  [flag "dynamicRegistration", flag "didCreate", flag "willCreate", flag "didRename",
   flag "willRename", flag "didDelete", flag "willDelete"]

def workspaceMembers : List Member :=
  [flag "applyEdit",
   optional "workspaceEdit" workspaceEdit,
   optional "didChangeConfiguration" registration,
   optional "didChangeWatchedFiles"
     (.record [flag "dynamicRegistration", flag "relativePatternSupport"]),
   optional "symbol" workspaceSymbol,
   optional "executeCommand" registration,
   flag "workspaceFolders",
   flag "configuration",
   optional "semanticTokens" refresh,
   optional "codeLens" refresh,
   optional "fileOperations" fileOperations,
   optional "inlineValue" refresh,
   optional "inlayHint" refresh,
   optional "diagnostic" refresh]

def completionItem : Check := .record
  [flag "snippetSupport",
   flag "commitCharactersSupport",
   optional "documentationFormat" (.list markup),
   flag "deprecatedSupport",
   flag "preselectSupport",
   trailing "tagSupport" tags,
   flag "insertReplaceSupport",
   optional "resolveSupport" resolution,
   optional "insertTextModeSupport" (.record [needed "valueSet" (.list .int32)]),
   flag "labelDetailsSupport"]

def completion : Check := .record
  [flag "dynamicRegistration",
   optional "completionItem" completionItem,
   optional "completionItemKind" kinds,
   flag "contextSupport",
   optional "insertTextMode" .int32,
   optional "completionList" (.record [optional "itemDefaults" (.list .string)])]

def signatureInformation : Check := .record
  [optional "documentationFormat" (.list markup),
   optional "parameterInformation" (.record [flag "labelOffsetSupport"]),
   flag "activeParameterSupport"]

def documentSymbol : Check := .record
  [flag "dynamicRegistration",
   optional "symbolKind" kinds,
   flag "hierarchicalDocumentSymbolSupport",
   trailing "tagSupport" tags]

def navigation : Check := .record [flag "dynamicRegistration", flag "linkSupport"]

def codeActionLiteral : Check := .record
  [needed "codeActionKind" (.record [needed "valueSet" (.list .string)])]

def codeAction : Check := .record
  [flag "dynamicRegistration",
   optional "codeActionLiteralSupport" codeActionLiteral,
   flag "isPreferredSupport",
   flag "disabledSupport",
   flag "dataSupport",
   optional "resolveSupport" resolution,
   flag "honorsChangeAnnotations"]

def renamed : Check := .record
  [flag "dynamicRegistration",
   flag "prepareSupport",
   optional "prepareSupportDefaultBehavior" .int32,
   flag "honorsChangeAnnotations"]

def publishedDiagnostics : Check := .record
  [flag "relatedInformation",
   trailing "tagSupport" tags,
   flag "versionSupport",
   flag "codeDescriptionSupport",
   flag "dataSupport"]

def foldingRange : Check := .record
  [flag "dynamicRegistration",
   optional "rangeLimit" .uint32,
   flag "lineFoldingOnly",
   optional "foldingRangeKind" (.record
     [optional "valueSet" (.list (.choice ["comment", "imports", "region"]))]),
   optional "foldingRange" (.record [flag "collapsedText"])]

/-- Whether all tokens of a document can be asked for, or how. -/
def allTokens : Check
  | .bool _ => true
  | .object fields => Check.record [flag "delta"] (.object fields)
  | _ => false

def semanticTokens : Check := .record
  [flag "dynamicRegistration",
   needed "requests" (.record [flag "range", optional "full" allTokens]),
   needed "tokenTypes" (.list .string),
   needed "tokenModifiers" (.list .string),
   needed "formats" (.list .string),
   flag "overlappingTokenSupport",
   flag "multilineTokenSupport",
   flag "serverCancelSupport",
   flag "augmentsSyntaxTokens"]

def document : Check := .record
  [optional "synchronization" (.record
     [flag "dynamicRegistration", flag "willSave", flag "willSaveWaitUntil", flag "didSave"]),
   optional "completion" completion,
   optional "hover" (.record
     [flag "dynamicRegistration", optional "contentFormat" (.list markup)]),
   optional "signatureHelp" (.record
     [flag "dynamicRegistration", optional "signatureInformation" signatureInformation,
      flag "contextSupport"]),
   optional "references" registration,
   optional "documentHighlight" registration,
   optional "documentSymbol" documentSymbol,
   optional "formatting" registration,
   optional "rangeFormatting" registration,
   optional "onTypeFormatting" registration,
   optional "declaration" navigation,
   optional "definition" navigation,
   optional "typeDefinition" navigation,
   optional "implementation" navigation,
   optional "codeAction" codeAction,
   optional "codeLens" registration,
   optional "documentLink" (.record [flag "dynamicRegistration", flag "tooltipSupport"]),
   optional "colorProvider" registration,
   optional "rename" renamed,
   optional "publishDiagnostics" publishedDiagnostics,
   optional "foldingRange" foldingRange,
   optional "selectionRange" registration,
   optional "linkedEditingRange" registration,
   optional "callHierarchy" registration,
   optional "semanticTokens" semanticTokens,
   optional "moniker" registration,
   optional "typeHierarchy" registration,
   optional "inlineValue" registration,
   optional "inlayHint" (.record
     [flag "dynamicRegistration", optional "resolveSupport" resolution]),
   optional "diagnostic" (.record
     [flag "dynamicRegistration", flag "relatedDocumentSupport"])]

def window : Check := .record
  [flag "workDoneProgress",
   optional "showMessage" (.record
     [optional "messageActionItem" (.record [flag "additionalPropertiesSupport"])]),
   optional "showDocument" (.record [needed "support" .bool])]

def general : Check := .record
  [optional "regularExpressions" (.record
     [needed "engine" .string, optional "version" .string]),
   optional "markdown" (.record
     [needed "parser" .string, optional "version" .string,
      optional "allowedTags" (.list .string)]),
   optional "staleRequestSupport" (.record
     [needed "cancel" .bool, needed "retryOnContentModified" (.list .string)]),
   optional "positionEncodings" (.list .string)]

def members : List Member :=
  [optional "workspace" (.record workspaceMembers),
   optional "textDocument" document,
   optional "window" window,
   optional "general" general,
   optional "experimental" .any]

/-- Whether the editor can be asked for settings. -/
def canPull (abilities : Json) : Bool :=
  let ability := do
    let workspace ← Member.value? members "workspace" abilities
    Member.value? workspaceMembers "configuration" workspace
  match ability with
  | some (.bool value) => value
  | _ => false

end KontaktScript.Abilities

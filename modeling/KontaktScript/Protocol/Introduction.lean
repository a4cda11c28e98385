import KontaktScript.Protocol.Abilities

/-!
# The editor's introduction

With its first request the editor says what it can do.  The server uses two of
these facts, but an introduction with any malformed member is refused.
-/

namespace KontaktScript

structure Introduction where
  /-- The settings to start with. -/
  options : Option Json
  pull : Bool

namespace Introduction

open Member (needed optional trailing)

def members : List Member :=
  [optional "processId" .uint32,
   optional "rootPath" .string,
   trailing "rootUri" .uri,
   optional "initializationOptions" .any,
   needed "capabilities" (.record Abilities.members),
   trailing "trace" (.choice ["off", "messages", "verbose"]),
   optional "workspaceFolders"
     (.list (.record [needed "uri" .uri, needed "name" .string])),
   optional "clientInfo" (.record [needed "name" .string, optional "version" .string]),
   optional "locale" .string]

/-- Reads an introduction; `none` if any member is malformed. -/
def read? (json : Json) : Option Introduction := do
  if !Check.record members json then none
  let abilities ← Member.value? members "capabilities" json
  let options := (Member.value? members "initializationOptions" json).filter (!·.isNull)
  return ⟨options, Abilities.canPull abilities⟩

end Introduction

end KontaktScript

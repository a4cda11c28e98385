import KontaktScript.Protocol.Notice
import KontaktScript.Server.Action

/-!
# Acting on notices and responses

Notices keep the documents and the settings up to date.  A fault in one of them is
nothing to tell the editor about, and serving goes on unless the editor is gone.
-/

namespace KontaktScript.Action

/-- Takes over settings.  If they are malformed the present ones stay, and the
user is told. -/
def applySettings (settings : Json) : Action Unit :=
  match Settings.decode settings with
  | .ok settings => update fun state => { state with settings }
  | .error cause => inform ("Ignoring malformed KSP settings: " ++ cause.message)

def askSettings : Action Unit := do
  if (← get).state.pull then
    request "workspace/configuration"
      (.object [("items", .array [.object [("section", .string Settings.sectionName)]])])

/-- Takes over the settings that were asked for: the first item of the result. -/
def takeSettings (result : Option Json) : Action Unit := do
  let some value := result | pure ()
  match Decoder.list Decoder.value value with
  | .ok (settings :: _) => applySettings settings
  | .ok [] => pure ()
  | .error cause => throw (.json cause.message)

/-- Only a response to a request that is still waiting counts.  A fault in handling
it is dropped, even if the editor is gone. -/
def onResponse (id : RequestId) (result : Option Json) : Action Unit := do
  if id ∈ (← get).state.awaiting then
    update fun state => { state with awaiting := state.awaiting.filter (· ≠ id) }
    tolerate (takeSettings result)

def onOpened (uri : Uri) (languageId : String) (version : Int32) (text : String) :
    Action Unit :=
  update fun state => { state with
    documents := state.documents.insert uri
      ⟨.ofString text, .detect languageId uri, version⟩ }

/-- A change counts only if the document is open and the change is not older than
its text, and then it must bring a whole text. -/
def onChanged (uri : Uri) (version : Int32) (changes : List Change) : Action Unit := do
  let some source := (← get).state.documents.get? uri | pure ()
  if version < source.version then pure ()
  else
    let some text := fullText? changes
      | throw (.process none ("expected a full-document change for " ++ uri.text))
    update fun state => { state with
      documents := state.documents.insert uri
        { source with document := .ofString text, version } }

def onClosed (uri : Uri) : Action Unit :=
  update fun state => { state with documents := state.documents.erase uri }

/-- An editor that can be asked for settings sends null for them when they have
changed. -/
def onConfigured (settings : Json) : Action Unit := do
  if settings.isNull && (← get).state.pull then askSettings else applySettings settings

def onNotice : Notice → Action Unit
  | .opened uri languageId version text => onOpened uri languageId version text
  | .changed uri version changes => onChanged uri version changes
  | .closed uri => onClosed uri
  | .configured settings => onConfigured settings

/-- The route of the notices on one topic. -/
def tryNotice (topic : Topic) (notification : Notification) : Action (Flow Notification) :=
  if notification.method = topic.name then
    match topic.decode notification.params with
    | .ok notice => return .done (← observing (onNotice notice))
    | .error cause => return .done (.error (.malformed notification.method cause))
  else return .pass notification

/-- Fails only if the editor is gone. -/
def onNotification (notification : Notification) : Action Unit := do
  match ← dispatch (Topic.all.map tryNotice) notification with
  | .done result => report result
  | .pass _ => report (.ok ())

end KontaktScript.Action

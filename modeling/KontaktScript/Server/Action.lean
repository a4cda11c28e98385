import KontaktScript.Server.Fault
import KontaktScript.Server.State

/-!
# Actions

What the server does on account of a message is a sequence of small actions,
each of which may change the state, send something, or fail.  A failure cuts the
sequence short, and what was done before it stays done.  Messages are dispatched
along a list of routes: each route deals with the messages of one method and
passes all others on.
-/

namespace KontaktScript

/-- Whether the editor still takes messages. -/
inductive Link where
  | live
  | lost
  deriving DecidableEq, Repr

structure Desk where
  link : Link
  state : State
  sent : List Outgoing

abbrev Action := EStateM Fault Desk

/-- What a route makes of a message: it deals with it, with success or with a
fault, or it passes it on. -/
inductive Flow (α : Type) where
  | done (result : Except Fault Unit)
  | pass (message : α)

namespace Action

def update (change : State → State) : Action Unit :=
  modify fun desk => { desk with state := change desk.state }

/-- Fails if the editor does not take messages any more. -/
def send (message : Outgoing) : Action Unit := do
  match (← get).link with
  | .live => modify fun desk => { desk with sent := desk.sent ++ [message] }
  | .lost => throw .send

def respond (id : RequestId) (result : Json) : Action Unit :=
  send (.response ⟨id, some result, none⟩)

def respondNull (id : RequestId) : Action Unit :=
  respond id .null

def inform (text : String) : Action Unit :=
  send (.notification "window/showMessage"
    (.object [("type", .int 3), ("message", .string text)]))

/-- Sends a request to the editor.  Its id is used up before it is sent, but only
a request that was sent is waited for. -/
def request (method : String) (params : Json) : Action Unit := do
  let id := RequestId.number (← get).state.nextId
  update fun state => { state with nextId := State.idAfter state.nextId }
  send (.request id method params)
  update fun state => { state with awaiting := state.awaiting.insert id }

/-- Tells the editor about a fault that is a response already.  That the editor is
gone stays a fault, and any other is dropped. -/
def report : Except Fault Unit → Action Unit
  | .ok () => pure ()
  | .error (.response reply) => send (.response reply)
  | .error .send => throw .send
  | .error (.process _ _) => pure ()

def tolerate (action : Action Unit) : Action Unit :=
  try action catch _ => pure ()

/-- Hands a message from route to route until one deals with it. -/
def dispatch {α : Type} : List (α → Action (Flow α)) → α → Action (Flow α)
  | [], message => pure (.pass message)
  | route :: routes, message => do
      match ← route message with
      | .done result => pure (.done result)
      | .pass message => dispatch routes message

end Action

end KontaktScript

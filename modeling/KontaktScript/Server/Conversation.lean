import KontaktScript.Server.Notice
import KontaktScript.Server.Query

/-!
# The conversation with the editor

Messages are handled one after another until they run out, sending fails, or
the editor shuts the server down.  A shutdown is answered, and the notification
`exit` must come next.
-/

namespace KontaktScript

def Action.onMessage (tables : Tables) : Incoming → Action Unit
  | .request id method params => onRequest tables ⟨id, method, params⟩
  | .response id result => onResponse id result
  | .notification method params => onNotification ⟨method, params⟩

inductive Stage where
  | serving (state : State)
  /-- A shutdown was answered and `exit` is due. -/
  | closing (state : State)
  | ended (state : State) (fault : Option Fault)

namespace Stage

def state : Stage → State
  | serving state => state
  | closing state => state
  | ended state _ => state

/-- The stage behind an action, and what was sent.  A fault ends the conversation. -/
def carryOut (link : Link) (state : State) (action : Action Unit) : Stage × List Outgoing :=
  match action.run ⟨link, state, []⟩ with
  | .ok () desk => (serving desk.state, desk.sent)
  | .error fault desk => (ended desk.state (some fault), desk.sent)

def trySend (link : Link) (message : Outgoing) : List Outgoing :=
  match link with
  | .live => [message]
  | .lost => []

def nullResponse (id : RequestId) : Outgoing :=
  .response ⟨id, some .null, none⟩

def step (tables : Tables) (link : Link) : Stage → Incoming → Stage × List Outgoing
  | serving state, message =>
      match message with
      | .request id method params =>
          if method = "shutdown" then (closing state, trySend link (nullResponse id))
          else carryOut link state (.onMessage tables (.request id method params))
      | message => carryOut link state (.onMessage tables message)
  | closing state, message =>
      if message.isExit then (ended state none, [])
      else (ended state (some (.protocol "unexpected message during shutdown")), [])
  | ended state fault, _ => (ended state fault, [])

/-- What is wrong if no more messages come. -/
def atEnd : Stage → Option Fault
  | serving _ => none
  | closing _ => some (.protocol "channel disconnected waiting for exit notification")
  | ended _ fault => fault

end Stage

/-- What a conversation leaves: the state, all messages sent, the fault that
ended it if one did, and the number of messages not taken. -/
structure Outcome where
  state : State
  sent : List Outgoing
  fault : Option Fault
  unread : Nat

def converse (tables : Tables) (link : Link) : Stage → List Incoming → Outcome
  | stage, [] => ⟨stage.state, [], stage.atEnd, 0⟩
  | stage, message :: rest =>
      match stage.step tables link message with
      | (.ended state fault, sent) => ⟨state, sent, fault, rest.length⟩
      | (next, sent) =>
          let outcome := converse tables link next rest
          { outcome with sent := sent ++ outcome.sent }

def State.serve (tables : Tables) (link : Link) (state : State) (messages : List Incoming) :
    Outcome :=
  converse tables link (.serving state) messages

/-- Opens the conversation by asking for the settings. -/
def State.opening (link : Link) (state : State) : Outcome :=
  match Stage.carryOut link state .askSettings with
  | (stage, sent) => ⟨stage.state, sent, stage.atEnd, 0⟩

end KontaktScript

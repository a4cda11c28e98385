import KontaktScript.Proofs.Reply
import KontaktScript.Proofs.Upkeep
import KontaktScript.Server.Conversation

/-!
# Runs of the server

While the editor takes messages and does not shut the server down, no message stops
it: each is handled in the state that the messages before it left, and what is sent is
what handling them sends, in order.  The lemmas here say so once for all later facts
about runs, and say for each kind of message which state it leaves and what it sends.
-/

namespace KontaktScript

theorem Action.isModest_onMessage (tables : Tables) (message : Incoming) :
    (onMessage tables message).IsModest := by
  cases message with
  | request id method params => exact isModest_onRequest tables ⟨id, method, params⟩
  | response id result => exact isModest_onResponse id result
  | notification method params => exact isModest_onNotification ⟨method, params⟩

namespace Stage

variable {link : Link} {state : State} {action : Action Unit}

theorem carryOut_of_ok {next : State} {sent : List Outgoing}
    (hrun : action.run ⟨link, state, []⟩ = .ok () ⟨link, next, sent⟩) :
    carryOut link state action = (serving next, sent) := by
  rw [carryOut, hrun]

theorem carryOut_of_error {fault : Fault} {last : State} {sent : List Outgoing}
    (hrun : action.run ⟨link, state, []⟩ = .error fault ⟨link, last, sent⟩) :
    carryOut link state action = (ended last (some fault), sent) := by
  rw [carryOut, hrun]

/-- Messages are handled unless they ask the server to shut down. -/
theorem step_serving (tables : Tables) (link : Link) (state : State) {message : Incoming}
    (hmessage : message.isShutdown = false) :
    (serving state).step tables link message =
      carryOut link state (.onMessage tables message) := by
  cases message with
  | request id method params =>
      have hmethod : method ≠ "shutdown" := by
        simpa [Incoming.isShutdown] using hmessage
      simp only [step, hmethod, if_false]
  | response id result => rfl
  | notification method params => rfl

end Stage

namespace State

variable (tables : Tables) (state : State)

/-- The state behind a message to a server whose editor is there. -/
def next (message : Incoming) : State :=
  (Stage.carryOut .live state (.onMessage tables message)).1.state

/-- What is sent on account of a message. -/
def emits (message : Incoming) : List Outgoing :=
  (Stage.carryOut .live state (.onMessage tables message)).2

/-- While the editor is there, serving goes on. -/
theorem carryOut_onMessage_live (message : Incoming) :
    Stage.carryOut .live state (.onMessage tables message) =
      (.serving (state.next tables message), state.emits tables message) := by
  obtain ⟨next, caused, -, hrun⟩ := (Action.isModest_onMessage tables message).live state []
  rw [State.next, emits, Stage.carryOut_of_ok hrun]
  rfl

theorem length_emits_le_one (message : Incoming) : (state.emits tables message).length ≤ 1 := by
  obtain ⟨next, caused, hcaused, hrun⟩ := (Action.isModest_onMessage tables message).live state []
  rw [emits, Stage.carryOut_of_ok hrun]
  exact hcaused

theorem next_eq_emits_eq {message : Incoming} {next : State} {caused : List Outgoing}
    (hrun : (Action.onMessage tables message).run ⟨.live, state, []⟩ =
      .ok () ⟨.live, next, caused⟩) :
    state.next tables message = next ∧ state.emits tables message = caused := by
  rw [State.next, emits, Stage.carryOut_of_ok hrun]
  exact ⟨rfl, rfl⟩

/-- A request leaves the state alone, and its reply is sent. -/
theorem handles_request (id : RequestId) (method : String) (params : Json) :
    state.next tables (.request id method params) = state ∧
      state.emits tables (.request id method params) =
        [.response (state.reply tables ⟨id, method, params⟩)] :=
  next_eq_emits_eq tables state
    ((Action.run_onRequest tables _ ⟨id, method, params⟩).trans (Action.run_send_live _ _ _))

/-- The settings that a response brings: the first item of what was waited for. -/
def brought? (id : RequestId) (result : Option Json) : Option Json :=
  if id ∈ state.awaiting then firstItem? result else none

theorem handles_response (id : RequestId) (result : Option Json) :
    state.next tables (.response id result) =
        (state.brought? id result).elim (state.settle id) (state.settle id).configured ∧
      state.emits tables (.response id result) =
        (state.brought? id result).elim [] settingsComplaints := by
  apply next_eq_emits_eq
  refine (Action.run_onResponse id result).trans ?_
  rw [brought?]
  cases if id ∈ state.awaiting then firstItem? result else none with
  | none => rfl
  | some json => exact Action.run_tolerate_of_ok (Action.run_applySettings_live json)

/-- The state behind a notice. -/
def heed : Notice → State
  | .configured settings =>
      if settings.isNull && state.pull then state.asked else state.configured settings
  | notice => state.withDocuments (updateDocuments state.documents notice)

/-- What is sent on account of a notice. -/
def heedEmits : Notice → List Outgoing
  | .configured settings =>
      if settings.isNull && state.pull then [settingsRequest (.number state.nextId)]
      else settingsComplaints settings
  | _ => []

theorem run_onConfigured_live (settings : Json) (sent : List Outgoing) :
    (Action.onConfigured settings).run ⟨.live, state, sent⟩ =
      .ok () ⟨.live, state.heed (.configured settings),
        sent ++ state.heedEmits (.configured settings)⟩ := by
  rw [Action.run_onConfigured, heed, heedEmits]
  cases hnudge : settings.isNull && state.pull with
  | true => exact Action.run_askSettings_live (Bool.and_eq_true_iff.mp hnudge).2
  | false => exact Action.run_applySettings_live settings

theorem handles_notification (method : String) (params : Json) :
    state.next tables (.notification method params) =
        (Notice.read? method params).elim state state.heed ∧
      state.emits tables (.notification method params) =
        (Notice.read? method params).elim [] state.heedEmits := by
  apply next_eq_emits_eq
  cases hnotice : Notice.read? method params with
  | none => exact Action.run_onNotification_of_none hnotice
  | some notice =>
      cases notice with
      | configured settings =>
          exact (Action.run_onNotification_of_configured hnotice).trans
            (state.run_onConfigured_live settings [])
      | opened uri languageId version text =>
          exact Action.run_onNotification_of_ne_configured hnotice fun _ => Notice.noConfusion
      | changed uri version changes =>
          exact Action.run_onNotification_of_ne_configured hnotice fun _ => Notice.noConfusion
      | closed uri =>
          exact Action.run_onNotification_of_ne_configured hnotice fun _ => Notice.noConfusion

end State

def Incoming.request? : Incoming → Option Request
  | request id method params => some ⟨id, method, params⟩
  | response _ _ => none
  | notification _ _ => none

def Outgoing.response? : Outgoing → Option Response
  | response reply => some reply
  | request _ _ _ => none
  | notification _ _ => none

def Incoming.notice? : Incoming → Option Notice
  | notification method params => Notice.read? method params
  | request _ _ _ => none
  | response _ _ => none

theorem filterMap_response?_settingsComplaints (json : Json) :
    (settingsComplaints json).filterMap Outgoing.response? = [] := by
  rw [settingsComplaints]
  cases Settings.decode json <;> rfl

namespace State

variable (tables : Tables) (state : State)

theorem filterMap_response?_heedEmits (notice : Notice) :
    (state.heedEmits notice).filterMap Outgoing.response? = [] := by
  cases notice with
  | configured settings =>
      rw [heedEmits]
      split
      · rfl
      · exact filterMap_response?_settingsComplaints settings
  | _ => rfl

/-- Only a request causes a response, and it causes just the one to it. -/
theorem filterMap_response?_emits (message : Incoming) :
    (state.emits tables message).filterMap Outgoing.response? =
      (message.request?.map (state.reply tables)).toList := by
  cases message with
  | request id method params =>
      rw [(state.handles_request tables id method params).2]
      rfl
  | response id result =>
      rw [(state.handles_response tables id result).2]
      cases state.brought? id result with
      | none => rfl
      | some json => exact filterMap_response?_settingsComplaints json
  | notification method params =>
      rw [(state.handles_notification tables method params).2]
      cases Notice.read? method params with
      | none => rfl
      | some notice => exact state.filterMap_response?_heedEmits notice

theorem documents_heed (notice : Notice) :
    (state.heed notice).documents = updateDocuments state.documents notice := by
  cases notice with
  | configured settings =>
      rw [heed]
      split
      · rfl
      · rfl
  | _ => rfl

/-- Only notices change the documents. -/
theorem documents_next (message : Incoming) :
    (state.next tables message).documents =
      message.notice?.toList.foldl updateDocuments state.documents := by
  cases message with
  | request id method params =>
      rw [(state.handles_request tables id method params).1]
      rfl
  | response id result =>
      rw [(state.handles_response tables id result).1]
      cases state.brought? id result with
      | none => rfl
      | some json => rfl
  | notification method params =>
      rw [(state.handles_notification tables method params).1, Incoming.notice?]
      cases Notice.read? method params with
      | none => rfl
      | some notice => exact state.documents_heed notice

end State

/-- No message asks the server to shut down. -/
def Unstopped (messages : List Incoming) : Prop :=
  ∀ message ∈ messages, message.isShutdown = false

instance (messages : List Incoming) : Decidable (Unstopped messages) :=
  inferInstanceAs (Decidable (∀ message ∈ messages, message.isShutdown = false))

namespace Unstopped

theorem head {message : Incoming} {rest : List Incoming}
    (hmessages : Unstopped (message :: rest)) : message.isShutdown = false :=
  hmessages message List.mem_cons_self

theorem tail {message : Incoming} {rest : List Incoming}
    (hmessages : Unstopped (message :: rest)) : Unstopped rest :=
  fun other hother => hmessages other (List.mem_cons_of_mem message hother)

theorem left {before rest : List Incoming} (hmessages : Unstopped (before ++ rest)) :
    Unstopped before :=
  fun other hother => hmessages other (List.mem_append_left rest hother)

end Unstopped

/-- The outcome of a run before which `sent` was sent. -/
def Outcome.after (sent : List Outgoing) (outcome : Outcome) : Outcome :=
  { outcome with sent := sent ++ outcome.sent }

namespace State

variable (tables : Tables) (state : State)

theorem step_serving_live {message : Incoming} (hmessage : message.isShutdown = false) :
    (Stage.serving state).step tables .live message =
      (.serving (state.next tables message), state.emits tables message) := by
  rw [Stage.step_serving tables .live state hmessage, carryOut_onMessage_live]

theorem serve_nil (link : Link) : state.serve tables link [] = ⟨state, [], none, 0⟩ := rfl

/-- A message is handled, and the rest in the state it leaves. -/
theorem serve_cons {message : Incoming} (hmessage : message.isShutdown = false)
    (rest : List Incoming) :
    state.serve tables .live (message :: rest) =
      ((state.next tables message).serve tables .live rest).after
        (state.emits tables message) := by
  rw [serve, converse, step_serving_live tables state hmessage]
  rfl

/-- A run can be cut anywhere: what comes later is served in the state that
the earlier messages left. -/
theorem serve_append {before : List Incoming} (hbefore : Unstopped before)
    (rest : List Incoming) :
    state.serve tables .live (before ++ rest) =
      ((state.serve tables .live before).state.serve tables .live rest).after
        (state.serve tables .live before).sent := by
  induction before generalizing state with
  | nil => rfl
  | cons message before ih =>
      rw [List.cons_append, serve_cons tables state hbefore.head,
        serve_cons tables state hbefore.head, ih (state.next tables message) hbefore.tail]
      simp only [Outcome.after, List.append_assoc]

/-- A run takes every message and ends without a fault. -/
theorem serve_finishes {messages : List Incoming} (hmessages : Unstopped messages) :
    (state.serve tables .live messages).fault = none ∧
      (state.serve tables .live messages).unread = 0 := by
  induction messages generalizing state with
  | nil => exact ⟨rfl, rfl⟩
  | cons message rest ih =>
      rw [serve_cons tables state hmessages.head]
      exact ih (state.next tables message) hmessages.tail

/-- The last message of a run is handled in the state that the others left. -/
theorem serve_concat {before : List Incoming} {message : Incoming}
    (hmessages : Unstopped (before ++ [message])) :
    let earlier := state.serve tables .live before
    (state.serve tables .live (before ++ [message])).state =
        earlier.state.next tables message ∧
      (state.serve tables .live (before ++ [message])).sent =
        earlier.sent ++ earlier.state.emits tables message := by
  intro earlier
  have hmessage : message.isShutdown = false :=
    hmessages message (List.mem_append_right before List.mem_cons_self)
  rw [serve_append tables state hmessages.left, serve_cons tables _ hmessage, serve_nil]
  simp only [Outcome.after, List.append_nil]
  exact ⟨rfl, rfl⟩

end State

end KontaktScript

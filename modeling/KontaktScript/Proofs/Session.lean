import KontaktScript.Proofs.Run
import Mathlib.Data.List.Basic
import Mathlib.Data.List.Induction

/-!
# Sessions

A session is all that happens to a server: messages come in, and at some time
the editor may stop taking messages.  The server's state outlives a conversation
that fails or is shut down, so a session goes on behind it.  Beside the state a
session keeps a log of the requests to the editor and of the responses to them,
against which the server's own record of the requests under way can be held.
-/

namespace KontaktScript

/-- What can be told of requests to the editor. -/
inductive Event where
  /-- The server tried to send a request, with success or in vain. -/
  | asked (id : RequestId) (sent : Bool)
  /-- A response came, and the callback of a request heard it or none did. -/
  | answered (id : RequestId) (heard : Bool)
  deriving DecidableEq, Repr

namespace Event

def asked? : Event → Option RequestId
  | asked id _ => some id
  | answered _ _ => none

def sent? : Event → Option RequestId
  | asked id true => some id
  | _ => none

def heard? : Event → Option RequestId
  | answered id true => some id
  | _ => none

/-- Whether a request was sent with the id, or a response came with it. -/
def touches (id : RequestId) : Event → Bool
  | asked other sent => sent && other = id
  | answered other _ => other = id

end Event

/-- A request was sent with the id, and no response with the id came since. -/
def Outstanding (log : List Event) (id : RequestId) : Prop :=
  ∃ before after, log = before ++ .asked id true :: after ∧
    ∀ heard, .answered id heard ∉ after

theorem not_outstanding_nil (id : RequestId) : ¬ Outstanding [] id := by
  rintro ⟨before, after, hlog, -⟩
  simp at hlog

theorem outstanding_concat {log : List Event} {event : Event} {id : RequestId} :
    Outstanding (log ++ [event]) id ↔
      event = .asked id true ∨ Outstanding log id ∧ ∀ heard, event ≠ .answered id heard := by
  constructor
  · rintro ⟨before, after, hlog, hafter⟩
    rcases List.eq_nil_or_concat' after with rfl | ⟨after, last, rfl⟩
    · obtain ⟨-, hevent⟩ := List.append_inj' hlog rfl
      exact .inl (List.cons.inj hevent).1
    · rw [← List.cons_append, ← List.append_assoc] at hlog
      obtain ⟨rfl, hevent⟩ := List.append_inj' hlog rfl
      obtain rfl : event = last := (List.cons.inj hevent).1
      refine .inr ⟨⟨before, after, rfl, ?_⟩, ?_⟩
      · intro heard hmem
        exact hafter heard (List.mem_append_left _ hmem)
      · rintro heard rfl
        exact hafter heard (List.mem_append_right _ List.mem_cons_self)
  · rintro (rfl | ⟨⟨before, after, rfl, hafter⟩, hevent⟩)
    · exact ⟨log, [], rfl, fun _ => List.not_mem_nil⟩
    · refine ⟨before, after ++ [event], ?_, ?_⟩
      · simp
      · intro heard hmem
        rcases List.mem_append.mp hmem with hmem | hmem
        · exact hafter heard hmem
        · exact hevent heard (List.mem_singleton.mp hmem).symm

theorem outstanding_concat_asked {log : List Event} {other id : RequestId} {sent : Bool} :
    Outstanding (log ++ [.asked other sent]) id ↔
      sent = true ∧ id = other ∨ Outstanding log id := by
  rw [outstanding_concat]
  constructor
  · rintro (hevent | ⟨hlog, -⟩)
    · cases hevent
      exact .inl ⟨rfl, rfl⟩
    · exact .inr hlog
  · rintro (⟨rfl, rfl⟩ | hlog)
    · exact .inl rfl
    · refine .inr ⟨hlog, ?_⟩
      intro heard hevent
      cases hevent

theorem outstanding_concat_answered {log : List Event} {other id : RequestId} {heard : Bool} :
    Outstanding (log ++ [.answered other heard]) id ↔ Outstanding log id ∧ id ≠ other := by
  rw [outstanding_concat]
  constructor
  · rintro (hevent | ⟨hlog, hevent⟩)
    · cases hevent
    · refine ⟨hlog, ?_⟩
      rintro rfl
      exact hevent heard rfl
  · rintro ⟨hlog, hid⟩
    refine .inr ⟨hlog, ?_⟩
    intro heard hevent
    exact hid (Event.answered.inj hevent).1.symm

/-- Of all that was sent or came with the id, the last is a request. -/
theorem outstanding_iff_getLast? {log : List Event} {id : RequestId} :
    Outstanding log id ↔ (log.filter (Event.touches id)).getLast? = some (.asked id true) := by
  induction log using List.reverseRecOn with
  | nil => simp [not_outstanding_nil]
  | append_singleton log event ih =>
      rw [List.filter_append]
      cases event with
      | asked other sent =>
          rw [outstanding_concat_asked, ih]
          by_cases hid : other = id
          · cases sent <;> simp [Event.touches, hid]
          · simp [Event.touches, hid, Ne.symm hid]
      | answered other heard =>
          rw [outstanding_concat_answered, ih]
          by_cases hid : other = id
          · simp [Event.touches, hid]
          · simp [Event.touches, hid, Ne.symm hid]

instance (log : List Event) : DecidablePred (Outstanding log) :=
  fun _ => decidable_of_iff' _ outstanding_iff_getLast?

/-- What can happen to a server. -/
inductive Happening where
  /-- The conversation opens, and the server asks for the settings. -/
  | opening
  | message (message : Incoming)
  /-- The editor stops taking messages. -/
  | disconnect

structure Session where
  link : Link
  state : State
  log : List Event

def Outgoing.requestId? : Outgoing → Option RequestId
  | request id _ _ => some id
  | response _ => none
  | notification _ _ => none

/-- The requests among the messages that the server tries to send. -/
def Link.asked (link : Link) (messages : List Outgoing) : List Event :=
  (messages.filterMap Outgoing.requestId?).map (.asked · (link = .live))

/-- A message that is a response, with whether it is waited for. -/
def State.answeredBy (state : State) : Incoming → List Event
  | .response id _ => [.answered id (id ∈ state.awaiting)]
  | .request _ _ _ => []
  | .notification _ _ => []

namespace Session

/-- What the server tries to send is what it sends while the editor takes it. -/
def step (tables : Tables) (session : Session) : Happening → Session
  | .opening =>
      { session with
        state := (session.state.opening session.link).state
        log := session.log ++ session.link.asked (session.state.opening .live).sent }
  | .message message =>
      let stage := Stage.serving session.state
      { session with
        state := (stage.step tables session.link message).1.state
        log := session.log ++ session.state.answeredBy message ++
          session.link.asked (stage.step tables .live message).2 }
  | .disconnect => { session with link := .lost }

def run (tables : Tables) (session : Session) (happenings : List Happening) : Session :=
  happenings.foldl (step tables) session

end Session

namespace Stage

variable {link : Link} {state after : State} {action other : Action Unit}

theorem carryOut_congr
    (hrun : action.run ⟨link, state, []⟩ = other.run ⟨link, after, []⟩) :
    carryOut link state action = carryOut link after other := by
  rw [carryOut, carryOut, hrun]

/-- Dropping a fault changes neither the state nor what is sent. -/
theorem carryOut_tolerate (link : Link) (state : State) (action : Action Unit) :
    (carryOut link state action.tolerate).1.state = (carryOut link state action).1.state ∧
      (carryOut link state action.tolerate).2 = (carryOut link state action).2 := by
  rw [carryOut, carryOut]
  cases haction : action.run ⟨link, state, []⟩ with
  | ok value desk =>
      rw [Action.run_tolerate_of_ok haction]
      exact ⟨rfl, rfl⟩
  | error fault desk =>
      rw [Action.run_tolerate_of_error haction]
      exact ⟨rfl, rfl⟩

end Stage

namespace State

/-- An action sends no request to the editor and leaves the given ones under way. -/
structure Awaits (state : State) (action : Action Unit) (nextId : Int32)
    (awaiting : List RequestId) : Prop where
  requests_eq : (Stage.carryOut .live state action).2.filterMap Outgoing.requestId? = []
  nextId_eq : ∀ link, (Stage.carryOut link state action).1.state.nextId = nextId
  awaiting_eq : ∀ link, (Stage.carryOut link state action).1.state.awaiting = awaiting

/-- An action sends the next request to the editor.  Its id is used up in any case,
but only a request that was sent is under way. -/
structure Asks (state : State) (action : Action Unit) : Prop where
  requests_eq : (Stage.carryOut .live state action).2.filterMap Outgoing.requestId? =
    [.number state.nextId]
  nextId_eq : ∀ link,
    (Stage.carryOut link state action).1.state.nextId = idAfter state.nextId
  awaiting_eq : ∀ link, (Stage.carryOut link state action).1.state.awaiting =
    if link = .live then state.awaiting.insert (.number state.nextId) else state.awaiting

variable {state after : State} {action other : Action Unit} {nextId : Int32}
  {awaiting : List RequestId}

theorem Awaits.of_run (hother : after.Awaits other nextId awaiting)
    (hrun : ∀ link, action.run ⟨link, state, []⟩ = other.run ⟨link, after, []⟩) :
    state.Awaits action nextId awaiting := by
  have hcarried : ∀ link, Stage.carryOut link state action = Stage.carryOut link after other :=
    fun link => Stage.carryOut_congr (hrun link)
  constructor
  · rw [hcarried, hother.requests_eq]
  · intro link
    rw [hcarried, hother.nextId_eq]
  · intro link
    rw [hcarried, hother.awaiting_eq]

theorem Asks.of_run (hother : state.Asks other)
    (hrun : ∀ link, action.run ⟨link, state, []⟩ = other.run ⟨link, state, []⟩) :
    state.Asks action := by
  have hcarried : ∀ link, Stage.carryOut link state action = Stage.carryOut link state other :=
    fun link => Stage.carryOut_congr (hrun link)
  constructor
  · rw [hcarried, hother.requests_eq]
  · intro link
    rw [hcarried, hother.nextId_eq]
  · intro link
    rw [hcarried, hother.awaiting_eq]

theorem Awaits.tolerate (haction : state.Awaits action nextId awaiting) :
    state.Awaits action.tolerate nextId awaiting := by
  have hcarried := fun link => Stage.carryOut_tolerate link state action
  constructor
  · rw [(hcarried .live).2, haction.requests_eq]
  · intro link
    rw [(hcarried link).1, haction.nextId_eq]
  · intro link
    rw [(hcarried link).1, haction.awaiting_eq]

theorem awaits_of_silent (after : State)
    (hrun : ∀ link, action.run ⟨link, state, []⟩ = .ok () ⟨link, after, []⟩) :
    state.Awaits action after.nextId after.awaiting := by
  have hcarried : ∀ link, Stage.carryOut link state action = (.serving after, []) :=
    fun link => Stage.carryOut_of_ok (hrun link)
  constructor
  · rw [hcarried]
    rfl
  · intro link
    rw [hcarried]
    rfl
  · intro link
    rw [hcarried]
    rfl

theorem awaits_send {message : Outgoing} (hmessage : message.requestId? = none) :
    state.Awaits (.send message) state.nextId state.awaiting := by
  constructor
  · rw [Stage.carryOut_of_ok (Action.run_send_live state [] message), List.nil_append,
      List.filterMap_cons_none hmessage, List.filterMap_nil]
  · intro link
    cases link <;> rfl
  · intro link
    cases link <;> rfl

theorem asks_askSettings (hpull : state.pull = true) : state.Asks .askSettings := by
  have hlive := Stage.carryOut_of_ok (Action.run_askSettings_live hpull)
  have hlost := Stage.carryOut_of_error (Action.run_askSettings_lost hpull)
  constructor
  · rw [hlive]
    rfl
  · intro link
    cases link with
    | live => rw [hlive]; rfl
    | lost => rw [hlost]; rfl
  · intro link
    cases link with
    | live => rw [hlive]; rfl
    | lost => rw [hlost]; rfl

theorem asks_or_awaits_askSettings (state : State) :
    state.Asks .askSettings ∨ state.Awaits .askSettings state.nextId state.awaiting := by
  cases hpull : state.pull with
  | true => exact .inl (asks_askSettings hpull)
  | false => exact .inr (awaits_of_silent state fun _ => Action.run_askSettings_of_not_pull hpull)

theorem awaits_applySettings (state : State) (settings : Json) :
    state.Awaits (.applySettings settings) state.nextId state.awaiting := by
  cases hdecode : Settings.decode settings with
  | ok found =>
      exact awaits_of_silent (state.configured settings)
        fun _ => Action.run_applySettings_of_ok hdecode
  | error cause =>
      exact (awaits_send rfl).of_run fun _ => Action.run_applySettings_of_error hdecode

theorem awaits_onResponse (state : State) (id : RequestId) (result : Option Json) :
    state.Awaits (.onResponse id result) state.nextId (state.awaiting.filter (· ≠ id)) := by
  have hrun : ∀ link, (Action.onResponse id result).run ⟨link, state, []⟩ = _ :=
    fun _ => Action.run_onResponse id result
  cases hitem : if id ∈ state.awaiting then firstItem? result else none with
  | none =>
      rw [hitem] at hrun
      exact awaits_of_silent (state.settle id) hrun
  | some json =>
      rw [hitem] at hrun
      exact ((state.settle id).awaits_applySettings json).tolerate.of_run hrun

theorem asks_or_awaits_onNotification (state : State) (method : String) (params : Json) :
    state.Asks (.onNotification ⟨method, params⟩) ∨
      state.Awaits (.onNotification ⟨method, params⟩) state.nextId state.awaiting := by
  cases hnotice : Notice.read? method params with
  | none => exact .inr (awaits_of_silent state fun _ => Action.run_onNotification_of_none hnotice)
  | some notice =>
      by_cases hconfigured : ∃ settings, notice = .configured settings
      · obtain ⟨settings, rfl⟩ := hconfigured
        have hrun : ∀ link, (Action.onNotification ⟨method, params⟩).run ⟨link, state, []⟩ = _ :=
          fun _ => (Action.run_onNotification_of_configured hnotice).trans
            (Action.run_onConfigured settings)
        cases hnudge : settings.isNull && state.pull with
        | true =>
            simp only [hnudge] at hrun
            exact state.asks_or_awaits_askSettings.imp (·.of_run hrun) (·.of_run hrun)
        | false =>
            simp only [hnudge] at hrun
            exact .inr ((state.awaits_applySettings settings).of_run hrun)
      · have hother : ∀ settings, notice ≠ .configured settings :=
          fun settings heq => hconfigured ⟨settings, heq⟩
        exact .inr (awaits_of_silent
          (state.withDocuments (updateDocuments state.documents notice))
          fun _ => Action.run_onNotification_of_ne_configured hnotice hother)

/-- What handling a message comes to, as far as requests to the editor go. -/
theorem onMessage_cases (state : State) (tables : Tables) (message : Incoming) :
    (state.answeredBy message = [] ∧ state.Asks (.onMessage tables message)) ∨
      (∃ id result, message = .response id result ∧
        state.Awaits (.onMessage tables message) state.nextId
          (state.awaiting.filter (· ≠ id))) ∨
      (state.answeredBy message = [] ∧
        state.Awaits (.onMessage tables message) state.nextId state.awaiting) := by
  cases message with
  | request id method params =>
      have hsend : state.Awaits (.send (.response (state.reply tables ⟨id, method, params⟩)))
          state.nextId state.awaiting := awaits_send rfl
      exact .inr (.inr ⟨rfl, hsend.of_run fun _ => Action.run_onRequest tables _ _⟩)
  | response id result =>
      exact .inr (.inl ⟨id, result, rfl, state.awaits_onResponse id result⟩)
  | notification method params =>
      rcases state.asks_or_awaits_onNotification method params with hasks | hawaits
      · exact .inl ⟨rfl, hasks⟩
      · exact .inr (.inr ⟨rfl, hawaits⟩)

end State

namespace Session

/-- What a step can do to the requests to the editor: one more is tried, one is
answered, or nothing happens to them. -/
inductive Moves (session next : Session) : Prop where
  | asks
      (log_eq : next.log =
        session.log ++ [.asked (.number session.state.nextId) (session.link = .live)])
      (nextId_eq : next.state.nextId = State.idAfter session.state.nextId)
      (awaiting_eq : next.state.awaiting =
        if session.link = .live then
          session.state.awaiting.insert (.number session.state.nextId)
        else session.state.awaiting)
  | answers (id : RequestId)
      (log_eq : next.log = session.log ++ [.answered id (id ∈ session.state.awaiting)])
      (nextId_eq : next.state.nextId = session.state.nextId)
      (awaiting_eq : next.state.awaiting = session.state.awaiting.filter (· ≠ id))
  | rests
      (log_eq : next.log = session.log)
      (nextId_eq : next.state.nextId = session.state.nextId)
      (awaiting_eq : next.state.awaiting = session.state.awaiting)

variable (tables : Tables) (session : Session)

theorem moves_opening : session.Moves (session.step tables .opening) := by
  rcases session.state.asks_or_awaits_askSettings with hasks | hawaits
  · refine .asks ?_ (hasks.nextId_eq _) (hasks.awaiting_eq _)
    simp only [step, State.opening, Link.asked, hasks.requests_eq, List.map_cons, List.map_nil]
  · refine .rests ?_ (hawaits.nextId_eq _) (hawaits.awaiting_eq _)
    simp only [step, State.opening, Link.asked, hawaits.requests_eq, List.map_nil,
      List.append_nil]

theorem moves_message (message : Incoming) :
    session.Moves (session.step tables (.message message)) := by
  cases hshutdown : message.isShutdown with
  | true =>
      cases message with
      | request id method params =>
          have hmethod : method = "shutdown" := by simpa [Incoming.isShutdown] using hshutdown
          subst hmethod
          have hlog : (session.step tables (.message (.request id "shutdown" params))).log =
              session.log ++ [] ++ [] := rfl
          refine .rests ?_ rfl rfl
          rw [hlog, List.append_nil, List.append_nil]
      | response id result => cases hshutdown
      | notification method params => cases hshutdown
  | false =>
      have hstate : (session.step tables (.message message)).state =
          (Stage.carryOut session.link session.state (.onMessage tables message)).1.state := by
        simp only [step, Stage.step_serving tables _ session.state hshutdown]
      have hlog : (session.step tables (.message message)).log =
          session.log ++ session.state.answeredBy message ++
            session.link.asked
              (Stage.carryOut .live session.state (.onMessage tables message)).2 := by
        simp only [step, Stage.step_serving tables _ session.state hshutdown]
      rcases session.state.onMessage_cases tables message with
        ⟨hnone, hasks⟩ | ⟨id, result, rfl, hawaits⟩ | ⟨hnone, hawaits⟩
      · refine .asks ?_ ?_ ?_
        · rw [hlog, hnone, Link.asked, hasks.requests_eq]
          simp
        · rw [hstate, hasks.nextId_eq]
        · rw [hstate, hasks.awaiting_eq]
      · refine .answers id ?_ ?_ ?_
        · rw [hlog, Link.asked, hawaits.requests_eq]
          simp [State.answeredBy]
        · rw [hstate, hawaits.nextId_eq]
        · rw [hstate, hawaits.awaiting_eq]
      · refine .rests ?_ ?_ ?_
        · rw [hlog, hnone, Link.asked, hawaits.requests_eq]
          simp
        · rw [hstate, hawaits.nextId_eq]
        · rw [hstate, hawaits.awaiting_eq]

theorem moves_step (happening : Happening) : session.Moves (session.step tables happening) := by
  cases happening with
  | opening => exact moves_opening tables session
  | message message => exact moves_message tables session message
  | disconnect => exact .rests rfl rfl rfl

/-- What every step keeps holds behind a run. -/
theorem run_induction {motive : Session → Prop}
    (step_keeps : ∀ session next : Session, session.Moves next → motive session → motive next)
    (hstart : motive session) (happenings : List Happening) :
    motive (session.run tables happenings) := by
  induction happenings using List.reverseRecOn with
  | nil => exact hstart
  | append_singleton happenings happening ih =>
      rw [run, List.foldl_append]
      exact step_keeps _ _ (moves_step tables _ happening) ih

end Session

theorem state_converse_closing (tables : Tables) (link : Link) (state : State)
    (messages : List Incoming) :
    (converse tables link (.closing state) messages).state = state := by
  cases messages with
  | nil => rfl
  | cons message rest =>
      rw [converse, Stage.step]
      cases message.isExit <;> rfl

/-- A conversation is a session on its messages up to the one that ends it. -/
theorem State.serve_eq_run (tables : Tables) (link : Link) (state : State)
    (messages : List Incoming) (log : List Event) :
    ∃ taken, taken <+: messages ∧
      (state.serve tables link messages).state =
        ((⟨link, state, log⟩ : Session).run tables (taken.map .message)).state ∧
      (link = .live → Unstopped messages → taken = messages) := by
  induction messages generalizing state log with
  | nil => exact ⟨[], List.nil_prefix, rfl, fun _ _ => rfl⟩
  | cons message rest ih =>
      have hserves : link = .live → Unstopped (message :: rest) →
          ((Stage.serving state).step tables link message).1 =
            .serving (state.next tables message) := by
        rintro rfl hmessages
        rw [State.step_serving_live tables state hmessages.head]
      have hone : [message] <+: message :: rest := ⟨rest, rfl⟩
      rcases hstep : (Stage.serving state).step tables link message with ⟨stage, sent⟩
      rw [hstep] at hserves
      rw [serve, converse, hstep]
      cases stage with
      | serving next =>
          let session := (⟨link, state, log⟩ : Session).step tables (.message message)
          have hnext : session = ⟨link, next, session.log⟩ := by
            simp only [session, Session.step, hstep, Stage.state]
          obtain ⟨taken, htaken, hstate, hall⟩ := ih next session.log
          refine ⟨message :: taken, List.cons_prefix_cons.mpr ⟨rfl, htaken⟩, ?_, ?_⟩
          · rw [← hnext] at hstate
            exact hstate
          · intro hlive hmessages
            rw [hall hlive hmessages.tail]
      | closing last =>
          refine ⟨[message], hone, ?_, ?_⟩
          · change _ = (Stage.step tables link (.serving state) message).1.state
            rw [hstep]
            exact state_converse_closing tables link last rest
          · intro hlive hmessages
            cases hserves hlive hmessages
      | ended last fault =>
          refine ⟨[message], hone, ?_, ?_⟩
          · change _ = (Stage.step tables link (.serving state) message).1.state
            rw [hstep]
            rfl
          · intro hlive hmessages
            cases hserves hlive hmessages

end KontaktScript

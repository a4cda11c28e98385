import KontaktScript.Proofs.Answers
import KontaktScript.Proofs.Configuration

/-!
# Serving an editor that is gone

An editor may stop taking messages while its own are still to be handled.  The
server then goes on as before until a message demands that something be sent: a
request its response, malformed settings a complaint, and a nudge the request for
the settings.  There it stops, and nothing that the message was to change has
changed.  A complaint about settings that the server itself asked for is dropped,
and serving goes on.
-/

namespace KontaktScript

/-- Parameters with the given settings: the member of an object, or the one element
of an array. -/
def BringsSettings (params settings : Json) : Prop :=
  params.field? "settings" = some settings ∨ params = .array [settings]

theorem Decoder.single_value_iff (structureName : String) {params settings : Json} :
    single structureName "settings" value params = .ok settings ↔
      BringsSettings params settings := by
  cases params with
  | object fields =>
      rw [single, present?, BringsSettings, Json.field?]
      cases hmember : fields.lookup "settings" with
      | none => simp [required, bind, Except.bind]
      | some found => simp [required, bind, Except.bind, value, Except.map]
  | array values =>
      simp only [single, BringsSettings, Json.field?]
      cases values with
      | nil => simp [element, bind, Except.bind]
      | cons first rest =>
          cases rest with
          | nil => simp [element, noMore, value, bind, Except.bind, pure, Except.pure]
          | cons second rest => simp [element, noMore, value, bind, Except.bind]
  | _ => simp [single, BringsSettings, Json.field?]

theorem Notice.read?_eq_configured_iff {method : String} {params settings : Json} :
    Notice.read? method params = some (.configured settings) ↔
      method = "workspace/didChangeConfiguration" ∧ BringsSettings params settings := by
  have hread : Notice.read? "workspace/didChangeConfiguration" params =
      (Topic.configured.decode params).toOption := rfl
  constructor
  · intro hnotice
    have hmethod := Notice.method_of_read?_configured hnotice
    subst hmethod
    rw [hread] at hnotice
    obtain ⟨found, hfound, hsame⟩ := map_eq_ok (eq_ok_of_toOption hnotice)
    cases hsame
    exact ⟨rfl, (Decoder.single_value_iff _).mp hfound⟩
  · rintro ⟨rfl, hbrings⟩
    rw [hread, Topic.decode, (Decoder.single_value_iff _).mpr hbrings]
    rfl

/-- A message on whose account the server has to send something. -/
inductive Incoming.Demands (pull : Bool) : Incoming → Prop where
  | request (id : RequestId) (method : String) (params : Json) :
      Demands pull (.request id method params)
  /-- Settings that do not decode. -/
  | malformed {params settings : Json} {cause : DecodeError}
      (hparams : BringsSettings params settings)
      (hcause : Settings.decode settings = .error cause) :
      Demands pull (.notification "workspace/didChangeConfiguration" params)
  /-- Null, from an editor that can be asked for the settings. -/
  | nudge {params : Json} (hparams : BringsSettings params .null) (hpull : pull = true) :
      Demands pull (.notification "workspace/didChangeConfiguration" params)

def Notice.demands (pull : Bool) : Notice → Bool
  | configured settings => (settings.isNull && pull) || !(Settings.decode settings).isOk
  | _ => false

namespace Incoming

variable {pull : Bool}

theorem demands_notification_iff {method : String} {params : Json} :
    (notification method params).Demands pull ↔
      (Notice.read? method params).any (Notice.demands pull) = true := by
  rw [Option.any_eq_true]
  constructor
  · intro hdemands
    cases hdemands with
    | malformed hparams hcause =>
        refine ⟨_, Notice.read?_eq_configured_iff.mpr ⟨rfl, hparams⟩, ?_⟩
        simp [Notice.demands, hcause, Except.isOk, Except.toBool]
    | nudge hparams hpull =>
        refine ⟨_, Notice.read?_eq_configured_iff.mpr ⟨rfl, hparams⟩, ?_⟩
        simp [Notice.demands, hpull, Json.isNull]
  · rintro ⟨notice, hnotice, hdemands⟩
    cases notice with
    | configured settings =>
        obtain ⟨rfl, hparams⟩ := Notice.read?_eq_configured_iff.mp hnotice
        rcases Bool.or_eq_true_iff.mp hdemands with hnudge | hmalformed
        · obtain ⟨hnull, hpull⟩ := Bool.and_eq_true_iff.mp hnudge
          rw [Json.isNull_iff.mp hnull] at hparams
          exact .nudge hparams hpull
        · cases hdecode : Settings.decode settings with
          | ok found =>
              rw [hdecode] at hmalformed
              cases hmalformed
          | error cause => exact .malformed hparams hdecode
    | _ => cases hdemands

theorem not_demands_response (id : RequestId) (result : Option Json) :
    ¬ (response id result).Demands pull := by
  intro hdemands
  cases hdemands

instance : DecidablePred (Demands pull)
  | .request id method params => isTrue (.request id method params)
  | .response id result => isFalse (not_demands_response id result)
  | .notification _ _ => decidable_of_iff' _ demands_notification_iff

/-- Unless no message demands anything, one is the first that does. -/
theorem exists_first_demand {messages : List Incoming}
    (hsome : ¬ ∀ message ∈ messages, ¬ message.Demands pull) :
    ∃ before message behind, messages = before ++ message :: behind ∧
      (∀ earlier ∈ before, ¬ earlier.Demands pull) ∧ message.Demands pull := by
  cases hfirst : messages.find? fun message => message.Demands pull with
  | none => exact absurd (by simpa using hfirst) hsome
  | some message =>
      obtain ⟨hmessage, before, behind, hsplit, hbefore⟩ :=
        List.find?_eq_some_iff_append.mp hfirst
      exact ⟨before, message, behind, hsplit, by simpa using hbefore, of_decide_eq_true hmessage⟩

end Incoming

/-- What is left as it was where serving stops. -/
structure State.Keeps (state last : State) : Prop where
  documents_eq : last.documents = state.documents
  settings_eq : last.settings = state.settings
  awaiting_eq : last.awaiting = state.awaiting

namespace State

/-- Without the editor an action leaves the state that it leaves with the editor. -/
def Survives (state : State) (action : Action Unit) : Prop :=
  Stage.carryOut .lost state action =
    (.serving (Stage.carryOut .live state action).1.state, [])

/-- An action that cannot be carried out without the editor. -/
def Fails (state : State) (action : Action Unit) : Prop :=
  ∃ last, Stage.carryOut .lost state action = (.ended last (some .send), []) ∧ state.Keeps last

variable {state : State} {action other : Action Unit}

theorem survives_of_run {next : State} {sent : List Outgoing}
    (hlive : action.run ⟨.live, state, []⟩ = .ok () ⟨.live, next, sent⟩)
    (hlost : action.run ⟨.lost, state, []⟩ = .ok () ⟨.lost, next, []⟩) :
    state.Survives action := by
  rw [Survives, Stage.carryOut_of_ok hlive, Stage.carryOut_of_ok hlost]
  rfl

theorem survives_of_silent {next : State}
    (hrun : ∀ link, action.run ⟨link, state, []⟩ = .ok () ⟨link, next, []⟩) :
    state.Survives action :=
  survives_of_run (hrun .live) (hrun .lost)

theorem Survives.of_run (hother : state.Survives other)
    (hrun : ∀ link, action.run ⟨link, state, []⟩ = other.run ⟨link, state, []⟩) :
    state.Survives action := by
  rw [Survives, Stage.carryOut_congr (hrun .live), Stage.carryOut_congr (hrun .lost)]
  exact hother

theorem Fails.of_run (hother : state.Fails other)
    (hrun : action.run ⟨.lost, state, []⟩ = other.run ⟨.lost, state, []⟩) :
    state.Fails action := by
  rw [Fails, Stage.carryOut_congr hrun]
  exact hother

theorem fails_send (message : Outgoing) : state.Fails (.send message) :=
  ⟨state, Stage.carryOut_of_error (Action.run_send_lost state [] message), rfl, rfl, rfl⟩

/-- A request that cannot be sent uses up its id and nothing else. -/
theorem fails_askSettings (hpull : state.pull = true) : state.Fails .askSettings :=
  ⟨state.numbered, Stage.carryOut_of_error (Action.run_askSettings_lost hpull), rfl, rfl, rfl⟩

theorem fails_applySettings {json : Json} {cause : DecodeError}
    (hcause : Settings.decode json = .error cause) : state.Fails (.applySettings json) :=
  (fails_send (settingsComplaint cause)).of_run (Action.run_applySettings_of_error hcause)

/-- The complaint about settings that were asked for is lost without a trace. -/
theorem survives_onResponse (id : RequestId) (result : Option Json) :
    state.Survives (.onResponse id result) := by
  have hrun : ∀ link, (Action.onResponse id result).run ⟨link, state, []⟩ = _ :=
    fun _ => Action.run_onResponse id result
  cases hitem : if id ∈ state.awaiting then firstItem? result else none with
  | none =>
      rw [hitem] at hrun
      exact survives_of_silent hrun
  | some json =>
      rw [hitem] at hrun
      exact survives_of_run
        ((hrun .live).trans (Action.run_tolerate_of_ok (Action.run_applySettings_live json)))
        ((hrun .lost).trans (Action.run_tolerate_applySettings_lost json))

theorem survives_onConfigured {settings : Json}
    (hsettings : (Notice.configured settings).demands state.pull = false) :
    state.Survives (.onConfigured settings) := by
  obtain ⟨hnudge, hdecodes⟩ := Bool.or_eq_false_iff.mp hsettings
  cases hdecode : Settings.decode settings with
  | ok found =>
      apply survives_of_silent
      intro link
      rw [Action.run_onConfigured, hnudge]
      exact Action.run_applySettings_of_ok hdecode
  | error cause =>
      rw [hdecode] at hdecodes
      cases hdecodes

theorem fails_onConfigured {settings : Json}
    (hsettings : (Notice.configured settings).demands state.pull = true) :
    state.Fails (.onConfigured settings) := by
  have hrun : (Action.onConfigured settings).run ⟨.lost, state, []⟩ = _ :=
    Action.run_onConfigured settings
  cases hnudge : settings.isNull && state.pull with
  | true =>
      rw [hnudge] at hrun
      exact (fails_askSettings (Bool.and_eq_true_iff.mp hnudge).2).of_run hrun
  | false =>
      rw [Notice.demands, hnudge, Bool.false_or] at hsettings
      rw [hnudge] at hrun
      cases hdecode : Settings.decode settings with
      | ok found =>
          rw [hdecode] at hsettings
          cases hsettings
      | error cause => exact (fails_applySettings hdecode).of_run hrun

variable (tables : Tables) {message : Incoming}

theorem survives_onMessage (hmessage : ¬ message.Demands state.pull) :
    state.Survives (.onMessage tables message) := by
  cases message with
  | request id method params => exact absurd (.request id method params) hmessage
  | response id result => exact survives_onResponse id result
  | notification method params =>
      rw [Incoming.demands_notification_iff, Bool.not_eq_true] at hmessage
      cases hnotice : Notice.read? method params with
      | none => exact survives_of_silent fun _ => Action.run_onNotification_of_none hnotice
      | some notice =>
          rw [hnotice, Option.any_some] at hmessage
          by_cases hconfigured : ∃ settings, notice = .configured settings
          · obtain ⟨settings, rfl⟩ := hconfigured
            exact (survives_onConfigured hmessage).of_run
              fun _ => Action.run_onNotification_of_configured hnotice
          · exact survives_of_silent fun _ =>
              Action.run_onNotification_of_ne_configured hnotice
                fun settings heq => hconfigured ⟨settings, heq⟩

theorem fails_onMessage (hmessage : message.Demands state.pull) :
    state.Fails (.onMessage tables message) := by
  cases message with
  | request id method params =>
      exact (fails_send _).of_run (Action.run_onRequest tables _ ⟨id, method, params⟩)
  | response id result => exact absurd hmessage (Incoming.not_demands_response id result)
  | notification method params =>
      obtain ⟨notice, hnotice, hdemands⟩ :=
        (Option.any_eq_true _ _).mp (Incoming.demands_notification_iff.mp hmessage)
      cases notice with
      | configured settings =>
          exact (fails_onConfigured hdemands).of_run
            (Action.run_onNotification_of_configured hnotice)
      | _ => cases hdemands

theorem serve_lost_cons (hshutdown : message.isShutdown = false)
    (hmessage : ¬ message.Demands state.pull) (rest : List Incoming) :
    state.serve tables .lost (message :: rest) =
      (state.next tables message).serve tables .lost rest := by
  have hsurvives : Stage.carryOut .lost state (.onMessage tables message) = _ :=
    survives_onMessage tables hmessage
  rw [serve, converse, Stage.step_serving tables .lost state hshutdown, hsurvives]
  rfl

/-- Messages that demand nothing have the effect that they have on an editor that is
there. -/
theorem serve_lost_append {before : List Incoming} (hbefore : Unstopped before)
    (hquiet : ∀ message ∈ before, ¬ message.Demands state.pull) (rest : List Incoming) :
    state.serve tables .lost (before ++ rest) =
      (state.serve tables .live before).state.serve tables .lost rest := by
  induction before generalizing state with
  | nil => rfl
  | cons message before ih =>
      obtain ⟨hmessage, hothers⟩ := List.forall_mem_cons.mp hquiet
      rw [← pull_next tables state message] at hothers
      rw [List.cons_append, serve_lost_cons tables hbefore.head hmessage,
        ih hbefore.tail hothers, serve_cons tables state hbefore.head, Outcome.after]

theorem serve_lost_cons_of_demands (hshutdown : message.isShutdown = false)
    (hmessage : message.Demands state.pull) (rest : List Incoming) :
    ∃ last, state.serve tables .lost (message :: rest) = ⟨last, [], some .send, rest.length⟩ ∧
      state.Keeps last := by
  obtain ⟨last, hended, hkeeps⟩ := fails_onMessage tables hmessage
  refine ⟨last, ?_, hkeeps⟩
  rw [serve, converse, Stage.step_serving tables .lost state hshutdown, hended]

theorem serve_lost_of_no_demand {messages : List Incoming} (hmessages : Unstopped messages)
    (hquiet : ∀ message ∈ messages, ¬ message.Demands state.pull) :
    state.serve tables .lost messages =
      ⟨(state.serve tables .live messages).state, [], none, 0⟩ := by
  have hall := serve_lost_append tables hmessages hquiet []
  rwa [List.append_nil] at hall

/-- Serving stops at the first message that demands something, in the state that the
messages before it lead to. -/
theorem serve_lost_of_demand {before behind : List Incoming}
    (hmessages : Unstopped (before ++ message :: behind))
    (hquiet : ∀ earlier ∈ before, ¬ earlier.Demands state.pull)
    (hmessage : message.Demands state.pull) :
    ∃ last, state.serve tables .lost (before ++ message :: behind) =
        ⟨last, [], some .send, behind.length⟩ ∧
      (state.serve tables .live before).state.Keeps last := by
  have hshutdown : message.isShutdown = false :=
    hmessages message (List.mem_append_right before List.mem_cons_self)
  rw [serve_lost_append tables hmessages.left hquiet]
  apply serve_lost_cons_of_demands tables hshutdown
  rwa [pull_serve tables state hmessages.left]

end State

/-- Once the editor is gone, serving stops at the first message that demands something,
and goes to the end if none does.  The messages before it have the effect that they have
while the editor is there, and the message itself changes neither the documents nor the
settings nor the requests that are waited for.  No response stops serving, whatever its
settings would have the server say. -/
theorem lost_editor_stops_at_first_demand (tables : Tables) (state : State)
    {messages : List Incoming} (hmessages : Unstopped messages) :
    let outcome := state.serve tables .lost messages
    let reached (taken : List Incoming) := (state.serve tables .live taken).state
    outcome.sent = [] ∧
      (outcome.fault = none ↔ ∀ message ∈ messages, ¬ message.Demands state.pull) ∧
      (outcome.fault = none → outcome.unread = 0 ∧ outcome.state = reached messages) ∧
      ∀ before message behind, messages = before ++ message :: behind →
        (∀ earlier ∈ before, ¬ earlier.Demands state.pull) →
        (message.Demands state.pull →
          outcome.fault = some .send ∧ outcome.unread = behind.length ∧
            outcome.state.documents = (reached before).documents ∧
            outcome.state.settings = (reached before).settings ∧
            outcome.state.awaiting = (reached before).awaiting) ∧
        ∀ id result, message = .response id result →
          outcome = (reached (before ++ [message])).serve tables .lost behind := by
  intro outcome reached
  have hstops : ∀ before message behind, messages = before ++ message :: behind →
      (∀ earlier ∈ before, ¬ earlier.Demands state.pull) → message.Demands state.pull →
      ∃ last, outcome = ⟨last, [], some .send, behind.length⟩ ∧ (reached before).Keeps last := by
    rintro before message behind rfl hquiet hmessage
    exact State.serve_lost_of_demand tables hmessages hquiet hmessage
  have hpasses : (∀ message ∈ messages, ¬ message.Demands state.pull) →
      outcome = ⟨reached messages, [], none, 0⟩ :=
    State.serve_lost_of_no_demand tables hmessages
  have hends : outcome.sent = [] ∧
      (outcome.fault = none ↔ ∀ message ∈ messages, ¬ message.Demands state.pull) := by
    by_cases hquiet : ∀ message ∈ messages, ¬ message.Demands state.pull
    · rw [hpasses hquiet]
      exact ⟨rfl, iff_of_true rfl hquiet⟩
    · obtain ⟨before, message, behind, hsplit, hbefore, hmessage⟩ :=
        Incoming.exists_first_demand hquiet
      obtain ⟨last, hlast, -⟩ := hstops before message behind hsplit hbefore hmessage
      rw [hlast]
      exact ⟨rfl, iff_of_false (Option.some_ne_none _) hquiet⟩
  refine ⟨hends.1, hends.2, ?_, ?_⟩
  · intro hfault
    rw [hpasses (hends.2.mp hfault)]
    exact ⟨rfl, rfl⟩
  · intro before message behind hsplit hquiet
    constructor
    · intro hmessage
      obtain ⟨last, hlast, hkeeps⟩ := hstops before message behind hsplit hquiet hmessage
      rw [hlast]
      exact ⟨rfl, rfl, hkeeps.documents_eq, hkeeps.settings_eq, hkeeps.awaiting_eq⟩
    · rintro id result rfl
      rw [List.append_cons] at hsplit
      subst hsplit
      apply State.serve_lost_append tables hmessages.left
      intro earlier hearlier
      rcases List.mem_append.mp hearlier with hbefore | hlast
      · exact hquiet earlier hbefore
      · rw [List.mem_singleton.mp hlast]
        exact Incoming.not_demands_response id result

/-- A document is closed, settings that were asked for turn out malformed, and a nudge
stops the server before it comes to a request. -/
theorem lost_editor_stops_at_first_demand_past_response :
    let source : OpenDocument := ⟨.ofString "on init", .ksp, 1⟩
    let state : State :=
      ⟨Store.empty.insert ⟨"file:///a.ksp"⟩ source, .default, 1, [.number 0], true⟩
    let close : Incoming := .notification "textDocument/didClose"
      (.object [("textDocument", .object [("uri", .string "file:///a.ksp")])])
    let answer : Incoming := .response (.number 0) (some (.array [.int 5]))
    let nudge : Incoming := .notification "workspace/didChangeConfiguration"
      (.object [("settings", .null)])
    let request : Incoming := .request (.number 7) "textDocument/hover" .null
    let outcome := state.serve ⟨[], [], []⟩ .lost [close, answer, nudge, request]
    Unstopped [close, answer, nudge, request] ∧
      (state.serve ⟨[], [], []⟩ .live [close, answer]).sent.length = 1 ∧
      outcome.fault = some .send ∧ outcome.unread = 1 ∧
      outcome.state.documents.get? ⟨"file:///a.ksp"⟩ = none ∧ outcome.state.awaiting = [] ∧
      (state.serve ⟨[], [], []⟩ .lost [close, answer]).fault = none := by
  intro source state close answer nudge request outcome
  have hmessages : Unstopped [close, answer, nudge, request] := by decide
  have hbefore : Unstopped [close, answer] := by decide
  have hquiet : ∀ message ∈ [close, answer], ¬ message.Demands true := by decide +kernel
  have hnudge : nudge.Demands true := .nudge (.inl rfl) rfl
  obtain ⟨-, -, -, hsplit⟩ :=
    lost_editor_stops_at_first_demand ⟨[], [], []⟩ state hmessages
  obtain ⟨hfault, hunread, hdocuments, -, hawaiting⟩ :=
    (hsplit [close, answer] nudge [request] rfl hquiet).1 hnudge
  obtain ⟨-, hends, -⟩ := lost_editor_stops_at_first_demand ⟨[], [], []⟩ state hbefore
  refine ⟨hmessages, by decide +kernel, hfault, hunread, ?_, ?_, hends.mpr hquiet⟩
  · rw [hdocuments]
    exact Option.isNone_iff_eq_none.mp (by decide +kernel)
  · rw [hawaiting]
    decide +kernel

end KontaktScript

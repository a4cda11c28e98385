import KontaktScript.Proofs.Correspondence

/-!
# The settings in force

Settings reach the server in two ways: the editor sends them, or it answers when
it is asked for them.  Whichever way they come and however the two are mixed, the
last ones that decode are in force, and before any do, those that the editor
introduced itself with.  Settings that do not decode change nothing but that the
user is told.
-/

namespace KontaktScript

/-- The settings that a notice brings.  Null from an editor that can be asked is no
more than a nudge. -/
def Notice.input? (pull : Bool) : Notice → Option Json
  | configured settings => if settings.isNull && pull then none else some settings
  | _ => none

/-- The settings that a message brings: those of a notice, or the first item of the
answer to a request that is waited for. -/
def Incoming.input? (pull : Bool) (awaited : RequestId → Prop) [DecidablePred awaited] :
    Incoming → Option Json
  | notification method params => (Notice.read? method params).bind (Notice.input? pull)
  | response id result => if awaited id then firstItem? result else none
  | request _ _ _ => none

theorem Incoming.input?_response_eq_none {awaited : RequestId → Prop} [DecidablePred awaited]
    (pull : Bool) {id : RequestId} {result : Option Json}
    (hresult : ¬ awaited id ∨ ∀ first rest, result ≠ some (.array (first :: rest))) :
    (response id result).input? pull awaited = none := by
  rw [input?]
  split_ifs with hid
  · rw [firstItem?.eq_def]
    split
    · rename_i first rest
      exact absurd rfl (hresult.resolve_left (not_not_intro hid) first rest)
    · rfl
  · rfl

namespace State

variable {state : State}

/-- Settings that a message brings are taken over, or the user is told about them. -/
theorem handles_input (tables : Tables) {message : Incoming} {json : Json}
    (hinput : message.input? state.pull (· ∈ state.awaiting) = some json) :
    ∃ heard : State, heard.settings = state.settings ∧
      state.next tables message = heard.configured json ∧
      state.emits tables message = settingsComplaints json := by
  cases message with
  | request id method params => cases hinput
  | response id result =>
      have hbrought : state.brought? id result = some json := hinput
      obtain ⟨hnext, hemits⟩ := state.handles_response tables id result
      rw [hbrought] at hnext hemits
      exact ⟨state.settle id, rfl, hnext, hemits⟩
  | notification method params =>
      obtain ⟨notice, hnotice, hinput⟩ := Option.bind_eq_some_iff.mp hinput
      obtain ⟨hnext, hemits⟩ := state.handles_notification tables method params
      rw [hnotice, Option.elim_some] at hnext hemits
      cases notice with
      | configured settings =>
          rw [Notice.input?] at hinput
          split_ifs at hinput with hnudge
          cases hinput
          rw [heed, if_neg hnudge] at hnext
          rw [heedEmits, if_neg hnudge] at hemits
          exact ⟨state, rfl, hnext, hemits⟩
      | opened uri languageId version text => cases hinput
      | changed uri version changes => cases hinput
      | closed uri => cases hinput

/-- A response that brings no settings has no effect but that its request is not
waited for any more. -/
theorem handles_response_of_no_input (tables : Tables) {id : RequestId} {result : Option Json}
    (hinput : (Incoming.response id result).input? state.pull (· ∈ state.awaiting) = none) :
    state.next tables (.response id result) = state.settle id ∧
      state.emits tables (.response id result) = [] := by
  have hbrought : state.brought? id result = none := hinput
  have hhandles := state.handles_response tables id result
  rwa [hbrought] at hhandles

theorem settings_next_of_no_input (tables : Tables) {message : Incoming}
    (hinput : message.input? state.pull (· ∈ state.awaiting) = none) :
    (state.next tables message).settings = state.settings := by
  cases message with
  | request id method params => rw [(state.handles_request tables id method params).1]
  | response id result =>
      rw [(handles_response_of_no_input tables hinput).1]
      rfl
  | notification method params =>
      rw [Incoming.input?] at hinput
      rw [(state.handles_notification tables method params).1]
      cases hnotice : Notice.read? method params with
      | none => rfl
      | some notice =>
          rw [hnotice, Option.bind_some] at hinput
          cases notice with
          | configured settings =>
              rw [Notice.input?] at hinput
              split_ifs at hinput with hnudge
              rw [Option.elim_some, heed, if_pos hnudge]
              rfl
          | opened uri languageId version text => rfl
          | changed uri version changes => rfl
          | closed uri => rfl

/-- The settings behind a message: those that it brings, if they decode. -/
theorem settings_next (tables : Tables) (state : State) (message : Incoming) :
    (state.next tables message).settings =
      ((message.input? state.pull (· ∈ state.awaiting)).bind Settings.decoded?).getD
        state.settings := by
  cases hinput : message.input? state.pull (· ∈ state.awaiting) with
  | none => exact settings_next_of_no_input tables hinput
  | some json =>
      obtain ⟨heard, hsettings, hnext, -⟩ := handles_input tables hinput
      rw [hnext, configured, hsettings]
      rfl

theorem next_of_malformed (tables : Tables) {message : Incoming} {json : Json}
    {cause : DecodeError}
    (hinput : message.input? state.pull (· ∈ state.awaiting) = some json)
    (hcause : Settings.decode json = .error cause) :
    (state.next tables message).settings = state.settings ∧
      state.emits tables message = [settingsComplaint cause] := by
  obtain ⟨heard, hsettings, hnext, hemits⟩ := handles_input tables hinput
  rw [hnext, hemits, heard.configured_of_error hcause, settingsComplaints, hcause]
  exact ⟨hsettings, rfl⟩

/-- Whether the editor can be asked is settled from the start. -/
theorem pull_next (tables : Tables) (state : State) (message : Incoming) :
    (state.next tables message).pull = state.pull := by
  cases message with
  | request id method params => rw [(state.handles_request tables id method params).1]
  | response id result =>
      rw [(state.handles_response tables id result).1]
      cases state.brought? id result with
      | none => rfl
      | some json => rfl
  | notification method params =>
      rw [(state.handles_notification tables method params).1]
      cases Notice.read? method params with
      | none => rfl
      | some notice =>
          cases notice with
          | configured settings =>
              rw [Option.elim_some, heed]
              split
              · rfl
              · rfl
          | opened uri languageId version text => rfl
          | changed uri version changes => rfl
          | closed uri => rfl

theorem pull_serve (tables : Tables) (state : State) {messages : List Incoming}
    (hmessages : Unstopped messages) :
    (state.serve tables .live messages).state.pull = state.pull := by
  induction messages generalizing state with
  | nil => rfl
  | cons message rest ih =>
      rw [serve_cons tables state hmessages.head, Outcome.after, ih _ hmessages.tail, pull_next]

theorem settings_start (options : Option Json) (pull : Bool) :
    (State.start options pull).settings = (options.bind Settings.decoded?).getD .default := by
  cases options with
  | none => rfl
  | some json =>
      simp only [State.start, Option.map_some, Option.bind_some, Settings.decoded?]
      cases Settings.decode json <;> rfl

theorem opening_live (state : State) :
    (state.opening .live).state.settings = state.settings ∧
      (state.opening .live).state.pull = state.pull := by
  rw [opening]
  cases hpull : state.pull with
  | true =>
      rw [Stage.carryOut_of_ok (Action.run_askSettings_live hpull)]
      exact ⟨rfl, hpull⟩
  | false =>
      rw [Stage.carryOut_of_ok (Action.run_askSettings_of_not_pull hpull)]
      exact ⟨rfl, hpull⟩

end State

theorem Incoming.input?_congr (pull : Bool) {left right : RequestId → Prop} [DecidablePred left]
    [DecidablePred right] (hiff : ∀ id, left id ↔ right id) (message : Incoming) :
    message.input? pull left = message.input? pull right := by
  cases message with
  | request id method params => rfl
  | response id result => exact if_congr (hiff id) rfl rfl
  | notification method params => rfl

/-- Of several values the last one counts that can be used. -/
theorem getLast?_filterMap_append_getD {α β : Type} (use : α → Option β) (first : Option α)
    (rest : List α) (fallback : β) :
    ((first.toList ++ rest).filterMap use).getLast?.getD fallback =
      (rest.filterMap use).getLast?.getD ((first.bind use).getD fallback) := by
  rw [List.filterMap_append, List.getLast?_append, Option.getD_or]
  cases first with
  | none => rfl
  | some value =>
      rw [Option.bind_some, Option.toList_some, List.filterMap_cons]
      cases use value <;> rfl

namespace Session

/-- The settings that messages bring, each in the place where it comes. -/
def inputs (tables : Tables) (pull : Bool) : Session → List Incoming → List Json
  | _, [] => []
  | session, message :: rest =>
      (message.input? pull (Outstanding session.log)).toList ++
        inputs tables pull (session.step tables (.message message)) rest

variable {first : Int32} {state : State} {log : List Event}

theorem step_live (tables : Tables) {message : Incoming}
    (hmessage : message.isShutdown = false) :
    (⟨.live, state, log⟩ : Session).step tables (.message message) =
      ⟨.live, state.next tables message,
        log ++ state.answeredBy message ++ Link.live.asked (state.emits tables message)⟩ := by
  simp only [step, State.step_serving_live tables state hmessage, Stage.state]

/-- Behind a run the last settings that decode are in force. -/
theorem settings_serve (tables : Tables) (haccounts : Accounts first ⟨.live, state, log⟩)
    {messages : List Incoming} (hmessages : Unstopped messages) :
    (state.serve tables .live messages).state.settings =
      ((inputs tables state.pull ⟨.live, state, log⟩ messages).filterMap
        Settings.decoded?).getLast?.getD state.settings := by
  induction messages generalizing state log with
  | nil => rfl
  | cons message rest ih =>
      have hinput : message.input? state.pull (· ∈ state.awaiting) =
          message.input? state.pull (Outstanding log) :=
        message.input?_congr state.pull haccounts.mem_awaiting_iff
      have hrest := haccounts.move (moves_message tables _ message)
      rw [step_live tables hmessages.head] at hrest
      rw [State.serve_cons tables state hmessages.head, Outcome.after, ih hrest hmessages.tail,
        State.settings_next, hinput, inputs, getLast?_filterMap_append_getD,
        step_live tables hmessages.head, State.pull_next]

theorem Accounts.mem_awaiting_serve_iff (tables : Tables)
    (haccounts : Accounts first ⟨.live, state, log⟩) {messages : List Incoming}
    (hmessages : Unstopped messages) (id : RequestId) :
    id ∈ (state.serve tables .live messages).state.awaiting ↔
      Outstanding ((⟨.live, state, log⟩ : Session).run tables (messages.map .message)).log id := by
  obtain ⟨taken, -, hstate, hall⟩ := state.serve_eq_run tables .live messages log
  rw [hall rfl hmessages] at hstate
  rw [hstate]
  have hrun := run_induction tables _ (fun _ _ hmoves haccounts => haccounts.move hmoves)
    haccounts (messages.map .message)
  exact hrun.mem_awaiting_iff id

end Session

/-- The settings in force are the last that came and decode, or those that the
editor introduced itself with, or the defaults.  Settings that do not decode
change nothing, and the user is told just once.  A response that nobody waits
for or that brings no list of settings changes nothing and is silent. -/
theorem settings_follow_inputs (tables : Tables) (options : Option Json) (pull : Bool)
    {messages : List Incoming} (hmessages : Unstopped messages) :
    let start := State.start options pull
    let run := (start.opening .live).state.serve tables .live
    let opened := (⟨.live, start, []⟩ : Session).step tables .opening
    let initial := (options.bind Settings.decoded?).getD .default
    (run messages).state.settings =
        ((opened.inputs tables pull messages).filterMap Settings.decoded?).getLast?.getD initial ∧
      ∀ before message behind, messages = before ++ message :: behind →
        let log := (opened.run tables (before.map .message)).log
        (∀ json cause, message.input? pull (Outstanding log) = some json →
          Settings.decode json = .error cause →
          (run (before ++ [message])).state.settings = (run before).state.settings ∧
            (run (before ++ [message])).sent = (run before).sent ++ [settingsComplaint cause]) ∧
        ∀ id result, message = .response id result →
          (¬ Outstanding log id ∨ ∀ first rest, result ≠ some (.array (first :: rest))) →
          (run (before ++ [message])).state.settings = (run before).state.settings ∧
            (run (before ++ [message])).state.documents = (run before).state.documents ∧
            (run (before ++ [message])).sent = (run before).sent := by
  intro start run opened initial
  have haccounts : opened.Accounts start.nextId :=
    (Session.accounts_start .live rfl).move (Session.moves_opening tables ⟨.live, start, []⟩)
  obtain ⟨hsettings, hpull⟩ : opened.state.settings = start.settings ∧ opened.state.pull = pull :=
    start.opening_live
  constructor
  · have hinitial : opened.state.settings = initial :=
      hsettings.trans (State.settings_start options pull)
    rw [← hinitial, ← hpull]
    exact Session.settings_serve tables haccounts hmessages
  · intro before message behind hsplit log
    rw [List.append_cons] at hsplit
    have hsofar : Unstopped (before ++ [message]) := by
      rw [hsplit] at hmessages
      exact hmessages.left
    obtain ⟨hstate, hsent⟩ := opened.state.serve_concat tables hsofar
    have hinput : message.input? (run before).state.pull (· ∈ (run before).state.awaiting) =
        message.input? pull (Outstanding log) := by
      have hsame : (run before).state.pull = pull :=
        (State.pull_serve tables opened.state hsofar.left).trans hpull
      rw [hsame]
      exact message.input?_congr pull (haccounts.mem_awaiting_serve_iff tables hsofar.left)
    constructor
    · intro json cause hjson hcause
      obtain ⟨hsettings, hemits⟩ :=
        State.next_of_malformed tables (hinput.trans hjson) hcause
      exact ⟨(congrArg State.settings hstate).trans hsettings,
        hsent.trans (congrArg ((run before).sent ++ ·) hemits)⟩
    · rintro id result rfl hresult
      obtain ⟨hsettled, hemits⟩ := State.handles_response_of_no_input tables
        (hinput.trans (Incoming.input?_response_eq_none pull hresult))
      have hnext : (run (before ++ [.response id result])).state =
          (run before).state.settle id := hstate.trans hsettled
      refine ⟨(congrArg State.settings hnext).trans rfl,
        (congrArg State.documents hnext).trans rfl, ?_⟩
      exact hsent.trans ((congrArg ((run before).sent ++ ·) hemits).trans (List.append_nil _))

/-- The editor turns hovers off at the start, sends settings that do not decode, turns
completion off when it is asked, and answers once more. -/
theorem settings_follow_inputs_sent_and_asked :
    let introduced : Json := .object [("ksp", .object [("hoverBuiltins", .bool false)])]
    let malformed : Incoming := .notification "workspace/didChangeConfiguration"
      (.object [("settings", .object [("hoverBuiltins", .int 1)])])
    let answer (json : Json) : Incoming := .response (.number 0) (some (.array [json]))
    let turned : Incoming := answer (.object [("completeBuiltins", .bool false)])
    let run :=
      ((State.start (some introduced) true).opening .live).state.serve ⟨[], [], []⟩ .live
    (run [malformed]).state.settings = ⟨false, true⟩ ∧
      (run [malformed]).sent =
        [settingsComplaint (.invalidType (.int 1) "a boolean")] ∧
      (run [malformed, turned, answer .null]).state.settings = ⟨true, false⟩ ∧
      (run [malformed, turned, answer .null]).sent = (run [malformed, turned]).sent := by
  intro introduced malformed answer turned run
  have hmessages : Unstopped [malformed, turned, answer .null] := by decide
  obtain ⟨hlast, hevery⟩ :=
    settings_follow_inputs ⟨[], [], []⟩ (some introduced) true hmessages
  obtain ⟨hsettings, hsent⟩ := (hevery [] malformed [turned, answer .null] rfl).left
    (.object [("hoverBuiltins", .int 1)]) (.invalidType (.int 1) "a boolean") rfl rfl
  refine ⟨hsettings.trans rfl, hsent, hlast.trans (by decide), ?_⟩
  have hsecond := (hevery [malformed, turned] (answer .null) [] rfl).right _ _ rfl
  exact (hsecond (.inl (by decide))).right.right

end KontaktScript

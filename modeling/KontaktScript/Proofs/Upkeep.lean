import KontaktScript.Proofs.Dispatch
import KontaktScript.Proofs.Json
import KontaktScript.Server.Notice

/-!
# Heeding notices and responses

Handling a notification comes to heeding its notice, if it is one: documents are
updated, settings are taken over or asked for.  Handling a response comes to taking
over the settings it brings, with no regard to faults.
-/

namespace KontaktScript

def Topic.ofName? (name : String) : Option Topic :=
  Topic.all.find? (·.name = name)

theorem Topic.name_of_ofName? {name : String} {topic : Topic}
    (htopic : ofName? name = some topic) : topic.name = name := by
  simpa using List.find?_some htopic

/-- The notice that a notification is, if it is one. -/
def Notice.read? (method : String) (params : Json) : Option Notice :=
  (Topic.ofName? method).bind fun topic => (topic.decode params).toOption

/-- The documents behind a notice.  A change counts only if the document is open, the
change is not older than its text, and it brings a whole text. -/
def State.updateDocuments (documents : Store) : Notice → Store
  | .opened uri languageId version text =>
      documents.insert uri ⟨.ofString text, .detect languageId uri, version⟩
  | .changed uri version changes =>
      match documents.get? uri, fullText? changes with
      | some source, some text =>
          if version < source.version then documents
          else documents.insert uri { source with document := .ofString text, version }
      | _, _ => documents
  | .closed uri => documents.erase uri
  | .configured _ => documents

def State.withDocuments (state : State) (documents : Store) : State :=
  { state with documents }

namespace Action

variable {topic : Topic} {notification : Notification} (desk : Desk)

theorem run_tryNotice_of_ne (htopic : notification.method ≠ topic.name) :
    (tryNotice topic notification).run desk = .ok (.pass notification) desk := by
  rw [tryNotice, if_neg htopic]
  rfl

theorem run_tryNotice_of_error (htopic : notification.method = topic.name) {cause : DecodeError}
    (hdecode : topic.decode notification.params = .error cause) :
    (tryNotice topic notification).run desk =
      .ok (.done (.error (.malformed notification.method cause))) desk := by
  rw [tryNotice, if_pos htopic, hdecode]
  rfl

theorem run_tryNotice_of_ok (htopic : notification.method = topic.name) {notice : Notice}
    (hdecode : topic.decode notification.params = .ok notice) :
    (tryNotice topic notification).run desk =
      (observing (onNotice notice) >>= fun result => pure (.done result)).run desk := by
  rw [tryNotice, if_pos htopic, hdecode]

theorem run_dispatch_notices (notification : Notification) :
    (dispatch (Topic.all.map tryNotice) notification).run desk =
      ((Topic.ofName? notification.method).elim (pure (.pass notification))
        (tryNotice · notification)).run desk := by
  apply run_dispatch_map
  · intro topic htopic
    exact run_tryNotice_of_ne desk (Ne.symm (of_decide_eq_false htopic))
  · intro topic htopic
    have hname := (of_decide_eq_true htopic).symm
    cases hdecode : topic.decode notification.params with
    | error cause => exact ⟨_, _, run_tryNotice_of_error desk hname hdecode⟩
    | ok notice =>
        obtain ⟨result, after, hrun⟩ := exists_run_observing desk (onNotice notice)
        refine ⟨result, after, ?_⟩
        rw [run_tryNotice_of_ok desk hname hdecode, EStateM.run_bind, hrun]
        rfl

/-- Handling a notification comes to heeding its notice, if it is one.  A fault of the
notice that is not about sending is dropped, and so is one of the parameters. -/
theorem run_onNotification (notification : Notification) :
    (onNotification notification).run desk =
      ((Notice.read? notification.method notification.params).elim (pure ())
        fun notice => observing (onNotice notice) >>= report).run desk := by
  rw [onNotification, EStateM.run_bind, run_dispatch_notices, Notice.read?]
  cases htopic : Topic.ofName? notification.method with
  | none => rfl
  | some topic =>
      have hname : notification.method = topic.name := (Topic.name_of_ofName? htopic).symm
      rw [Option.elim_some, Option.bind_some]
      cases hdecode : topic.decode notification.params with
      | error cause =>
          rw [run_tryNotice_of_error desk hname hdecode]
          rfl
      | ok notice =>
          obtain ⟨result, after, hrun⟩ := exists_run_observing desk (onNotice notice)
          rw [run_tryNotice_of_ok desk hname hdecode, EStateM.run_bind, hrun]
          simp only [Except.toOption, Option.elim_some, EStateM.run_bind, hrun]
          rfl

end Action

/-- Tells the user that settings do not decode. -/
def settingsComplaint (cause : DecodeError) : Outgoing :=
  .notification "window/showMessage" (.object [("type", .int 3),
    ("message", .string ("Ignoring malformed KSP settings: " ++ cause.message))])

/-- What the user is told about settings: nothing if they decode. -/
def settingsComplaints (json : Json) : List Outgoing :=
  match Settings.decode json with
  | .ok _ => []
  | .error cause => [settingsComplaint cause]

/-- The settings that a value decodes to. -/
def Settings.decoded? (json : Json) : Option Settings :=
  (Settings.decode json).toOption

def settingsRequest (id : RequestId) : Outgoing :=
  .request id "workspace/configuration"
    (.object [("items", .array [.object [("section", .string Settings.sectionName)]])])

/-- The first item of a result that is a list. -/
def firstItem? : Option Json → Option Json
  | some (.array (first :: _)) => some first
  | _ => none

namespace State

variable (state : State)

/-- The state once an id for a request to the editor is used up. -/
def numbered : State :=
  { state with nextId := idAfter state.nextId }

/-- The state once the next request to the editor is sent. -/
def asked : State :=
  { state.numbered with awaiting := state.awaiting.insert (.number state.nextId) }

/-- The state once a request is not waited for any more. -/
def settle (id : RequestId) : State :=
  { state with awaiting := state.awaiting.filter (· ≠ id) }

/-- The state with the settings that a value decodes to, or as it is if it decodes to
none. -/
def configured (json : Json) : State :=
  { state with settings := (Settings.decoded? json).getD state.settings }

theorem configured_of_ok {json : Json} {settings : Settings}
    (hdecode : Settings.decode json = .ok settings) :
    state.configured json = { state with settings } := by
  rw [configured, Settings.decoded?, hdecode]
  rfl

theorem configured_of_error {json : Json} {cause : DecodeError}
    (hdecode : Settings.decode json = .error cause) : state.configured json = state := by
  rw [configured, Settings.decoded?, hdecode]
  rfl

theorem settle_of_not_mem {id : RequestId} (hid : id ∉ state.awaiting) :
    state.settle id = state := by
  have hothers : state.awaiting.filter (· ≠ id) = state.awaiting := by
    rw [List.filter_eq_self]
    intro other hother
    exact decide_eq_true (fun heq => hid (heq ▸ hother))
  rw [settle, hothers]

end State

namespace Action

variable {link : Link} {state : State} {sent : List Outgoing} {desk : Desk}

theorem run_applySettings_of_ok {json : Json} {settings : Settings}
    (hdecode : Settings.decode json = .ok settings) :
    (applySettings json).run ⟨link, state, sent⟩ =
      .ok () ⟨link, state.configured json, sent⟩ := by
  rw [applySettings, state.configured_of_ok hdecode, hdecode]
  rfl

theorem run_applySettings_of_error {json : Json} {cause : DecodeError}
    (hdecode : Settings.decode json = .error cause) :
    (applySettings json).run desk = (send (settingsComplaint cause)).run desk := by
  rw [applySettings, hdecode]
  rfl

theorem run_applySettings_live (json : Json) :
    (applySettings json).run ⟨.live, state, sent⟩ =
      .ok () ⟨.live, state.configured json, sent ++ settingsComplaints json⟩ := by
  rw [settingsComplaints]
  cases hdecode : Settings.decode json with
  | ok settings => rw [run_applySettings_of_ok hdecode, List.append_nil]
  | error cause =>
      rw [run_applySettings_of_error hdecode, state.configured_of_error hdecode]
      exact run_send_live state sent _

/-- Where faults are dropped, malformed settings cause no more than a complaint. -/
theorem run_tolerate_applySettings_lost (json : Json) :
    (tolerate (applySettings json)).run ⟨.lost, state, sent⟩ =
      .ok () ⟨.lost, state.configured json, sent⟩ := by
  cases hdecode : Settings.decode json with
  | ok settings => exact run_tolerate_of_ok (run_applySettings_of_ok hdecode)
  | error cause =>
      rw [state.configured_of_error hdecode]
      exact run_tolerate_of_error (run_applySettings_of_error hdecode)

theorem run_askSettings_of_not_pull (hpull : state.pull = false) :
    askSettings.run ⟨link, state, sent⟩ = .ok () ⟨link, state, sent⟩ := by
  rw [askSettings, EStateM.run_bind, EStateM.run_get]
  simp only [hpull]
  rfl

theorem run_askSettings_live (hpull : state.pull = true) :
    askSettings.run ⟨.live, state, sent⟩ =
      .ok () ⟨.live, state.asked, sent ++ [settingsRequest (.number state.nextId)]⟩ := by
  rw [askSettings, EStateM.run_bind, EStateM.run_get]
  simp only [hpull]
  rfl

/-- A request that cannot be sent has used up its id, but is not waited for. -/
theorem run_askSettings_lost (hpull : state.pull = true) :
    askSettings.run ⟨.lost, state, sent⟩ = .error .send ⟨.lost, state.numbered, sent⟩ := by
  rw [askSettings, EStateM.run_bind, EStateM.run_get]
  simp only [hpull]
  rfl

theorem run_onConfigured (settings : Json) :
    (onConfigured settings).run desk =
      (if settings.isNull && desk.state.pull then askSettings else applySettings settings).run
        desk := rfl

theorem isModest_applySettings (json : Json) : (applySettings json).IsModest := by
  cases hdecode : Settings.decode json with
  | ok settings =>
      exact isModest_of_silent (·.configured json)
        fun _ _ _ => run_applySettings_of_ok hdecode
  | error cause =>
      exact isModest_of_run (fun state => state) (fun _ => send (settingsComplaint cause))
        (fun _ _ _ => run_applySettings_of_error hdecode) fun _ => isModest_send _

theorem isModest_askSettings : askSettings.IsModest where
  live state sent := by
    cases hpull : state.pull with
    | false =>
        refine ⟨state, [], Nat.zero_le 1, ?_⟩
        rw [run_askSettings_of_not_pull hpull, List.append_nil]
    | true =>
        exact ⟨state.asked, [settingsRequest (.number state.nextId)], Nat.le_refl 1,
          run_askSettings_live hpull⟩
  lost state sent := by
    cases hpull : state.pull with
    | false => exact ⟨state, .inl (run_askSettings_of_not_pull hpull)⟩
    | true => exact ⟨state.numbered, .inr (run_askSettings_lost hpull)⟩

theorem isModest_onConfigured (settings : Json) : (onConfigured settings).IsModest := by
  refine isModest_of_run (fun state => state) (fun state =>
    if settings.isNull && state.pull then askSettings else applySettings settings)
    (fun _ _ _ => run_onConfigured settings) ?_
  intro state
  split
  · exact isModest_askSettings
  · exact isModest_applySettings settings

/-- A change without a whole text is a fault, which is dropped. -/
theorem run_onChanged (uri : Uri) (version : Int32) (changes : List Change) :
    (observing (onChanged uri version changes) >>= report).run ⟨link, state, sent⟩ =
      .ok () ⟨link, state.withDocuments
        (State.updateDocuments state.documents (.changed uri version changes)), sent⟩ := by
  simp only [State.updateDocuments]
  cases hentry : state.documents.get? uri with
  | none =>
      apply run_report_of_ok
      simp only [onChanged, EStateM.run_bind, EStateM.run_get, hentry]
      rfl
  | some source =>
      by_cases hstale : version < source.version
      · apply run_report_of_ok
        simp only [onChanged, EStateM.run_bind, EStateM.run_get, hentry, hstale, if_true]
        cases fullText? changes with
        | none => rfl
        | some text =>
            simp only [hstale, if_true]
            rfl
      · cases htext : fullText? changes with
        | none =>
            apply run_report_of_process
            simp only [onChanged, EStateM.run_bind, EStateM.run_get, hentry, hstale, if_false,
              htext]
            rfl
        | some text =>
            apply run_report_of_ok
            simp only [onChanged, EStateM.run_bind, EStateM.run_get, hentry, hstale, if_false,
              htext]
            rfl

theorem run_onNotification_of_none {method : String} {params : Json}
    (hnotice : Notice.read? method params = none) :
    (onNotification ⟨method, params⟩).run desk = .ok () desk := by
  rw [run_onNotification, hnotice]
  rfl

theorem run_onNotification_of_configured {method : String} {params settings : Json}
    (hnotice : Notice.read? method params = some (.configured settings)) :
    (onNotification ⟨method, params⟩).run desk = (onConfigured settings).run desk := by
  rw [run_onNotification, hnotice]
  exact (isModest_onConfigured settings).run_report

/-- All other notices have no effect but on the documents. -/
theorem run_onNotification_of_ne_configured {method : String} {params : Json} {notice : Notice}
    (hnotice : Notice.read? method params = some notice)
    (hother : ∀ settings, notice ≠ .configured settings) :
    (onNotification ⟨method, params⟩).run ⟨link, state, sent⟩ =
      .ok () ⟨link, state.withDocuments (State.updateDocuments state.documents notice), sent⟩ := by
  rw [run_onNotification, hnotice, Option.elim_some]
  cases notice with
  | opened uri languageId version text => exact run_report_of_ok rfl
  | changed uri version changes => exact run_onChanged uri version changes
  | closed uri => exact run_report_of_ok rfl
  | configured settings => exact absurd rfl (hother settings)

/-- A result that is no list is a fault, which is dropped. -/
theorem run_tolerate_takeSettings (result : Option Json) :
    (tolerate (takeSettings result)).run desk =
      ((firstItem? result).elim (pure ()) fun json => tolerate (applySettings json)).run desk := by
  cases result with
  | none => exact run_tolerate_of_ok rfl
  | some value =>
      cases value with
      | array values =>
          have hdecode : Decoder.list Decoder.value (.array values) = .ok values :=
            Decoder.items_value values
          cases values with
          | nil => exact run_tolerate_of_ok rfl
          | cons first rest =>
              apply run_tolerate_congr
              simp only [takeSettings, hdecode]
      | _ => exact run_tolerate_of_error rfl

/-- Handling a response comes to taking over the first item of what was waited for,
whatever faults that causes. -/
theorem run_onResponse (id : RequestId) (result : Option Json) :
    (onResponse id result).run ⟨link, state, sent⟩ =
      ((if id ∈ state.awaiting then firstItem? result else none).elim (pure ())
        fun json => tolerate (applySettings json)).run ⟨link, state.settle id, sent⟩ := by
  rw [onResponse, EStateM.run_bind, EStateM.run_get]
  by_cases hid : id ∈ state.awaiting
  · simp only [if_pos hid]
    exact run_tolerate_takeSettings result
  · simp only [if_neg hid, state.settle_of_not_mem hid]
    rfl

theorem isModest_onResponse (id : RequestId) (result : Option Json) :
    (onResponse id result).IsModest := by
  refine isModest_of_run (·.settle id) (fun state =>
    (if id ∈ state.awaiting then firstItem? result else none).elim (pure ())
      fun json => tolerate (applySettings json)) (fun _ _ _ => run_onResponse id result) ?_
  intro state
  cases if id ∈ state.awaiting then firstItem? result else none with
  | none => exact isModest_of_silent (fun state => state) fun _ _ _ => rfl
  | some json => exact (isModest_applySettings json).tolerate

theorem isModest_onNotification (notification : Notification) :
    (onNotification notification).IsModest := by
  rcases notification with ⟨method, params⟩
  cases hnotice : Notice.read? method params with
  | none =>
      exact isModest_of_silent (fun state => state)
        fun _ _ _ => run_onNotification_of_none hnotice
  | some notice =>
      by_cases hconfigured : ∃ settings, notice = .configured settings
      · obtain ⟨settings, rfl⟩ := hconfigured
        exact isModest_of_run (fun state => state) (fun _ => onConfigured settings)
          (fun _ _ _ => run_onNotification_of_configured hnotice)
          fun _ => isModest_onConfigured settings
      · refine isModest_of_silent
          (fun state => state.withDocuments (State.updateDocuments state.documents notice)) ?_
        intro link state sent
        exact run_onNotification_of_ne_configured hnotice
          fun settings heq => hconfigured ⟨settings, heq⟩

end Action

end KontaktScript

import KontaktScript.Proofs.Answers
import KontaktScript.Proofs.History

/-!
# Documents do not interfere

All that the server knows about one document is its entry in the store and what
is common to all documents: the settings and the requests under way.  Messages
about other documents, and messages that mean nothing, leave this view of the
state alone, and every answer about the document is read off it.  Hence a run
looks to one document as if it had been sent only the messages that concern it.
-/

namespace KontaktScript

def Request.query? (request : Request) : Option Query :=
  (Method.ofName? request.method).bind fun served => (served.decode request.params).toOption

def Request.names (uri : Uri) (request : Request) : Bool :=
  request.query?.any (·.uri = uri)

/-- Whether a notice is about a document or about the settings. -/
def Notice.concerns (uri : Uri) : Notice → Bool
  | opened other _ _ _ => other = uri
  | changed other _ _ => other = uri
  | closed other => other = uri
  | configured _ => true

/-- Whether a message can matter to a document: it is about the document or the
settings, or it is a response. -/
def Incoming.concerns (uri : Uri) : Incoming → Bool
  | request id method params => Request.names uri ⟨id, method, params⟩
  | response _ _ => true
  | notification method params => (Notice.read? method params).any (Notice.concerns uri)

/-- The requests among messages with the responses sent to them. -/
def exchanges (messages : List Incoming) (sent : List Outgoing) : List (Request × Response) :=
  (messages.filterMap Incoming.request?).zip (sent.filterMap Outgoing.response?)

def exchangesAbout (uri : Uri) (messages : List Incoming) (sent : List Outgoing) :
    List (Request × Response) :=
  (exchanges messages sent).filter (·.1.names uri)

/-- What a state is to one document: its entry, and what all documents share. -/
structure View where
  entry : Option OpenDocument
  settings : Settings
  nextId : Int32
  awaiting : List RequestId
  pull : Bool

namespace State

variable {uri : Uri} {left right : State}

def view (uri : Uri) (state : State) : View where
  entry := state.documents.get? uri
  settings := state.settings
  nextId := state.nextId
  awaiting := state.awaiting
  pull := state.pull

theorem eq_withDocuments (hview : left.view uri = right.view uri) :
    right = left.withDocuments right.documents := by
  rcases left with ⟨documents, settings, nextId, awaiting, pull⟩
  rcases right with ⟨others, _, _, _, _⟩
  simp only [view, View.mk.injEq] at hview
  obtain ⟨-, rfl, rfl, rfl, rfl⟩ := hview
  rfl

section WithDocuments

variable (state : State) (documents : Store)

/-- A notice changes the documents as they are, and all else as if there were
none. -/
theorem heed_withDocuments (notice : Notice) :
    (state.withDocuments documents).heed notice =
      (state.heed notice).withDocuments (updateDocuments documents notice) := by
  cases notice with
  | configured settings =>
      rw [heed, heed]
      change (if settings.isNull && state.pull then _ else _) = _
      split
      · rfl
      · rfl
  | opened uri languageId version text => rfl
  | changed uri version changes => rfl
  | closed uri => rfl

theorem next_withDocuments (tables : Tables) (message : Incoming) :
    (state.withDocuments documents).next tables message =
      (state.next tables message).withDocuments
        (message.notice?.toList.foldl updateDocuments documents) := by
  cases message with
  | request id method params =>
      rw [((state.withDocuments documents).handles_request tables id method params).1,
        (state.handles_request tables id method params).1]
      rfl
  | response id result =>
      rw [((state.withDocuments documents).handles_response tables id result).1,
        (state.handles_response tables id result).1]
      change (state.brought? id result).elim _ _ = _
      cases state.brought? id result with
      | none => rfl
      | some json => rfl
  | notification method params =>
      rw [((state.withDocuments documents).handles_notification tables method params).1,
        (state.handles_notification tables method params).1, Incoming.notice?]
      cases Notice.read? method params with
      | none => rfl
      | some notice => exact state.heed_withDocuments documents notice

end WithDocuments

end State

theorem Notice.get?_foldl_updateDocuments (uri : Uri) (history : List Notice)
    (documents : Store) :
    (history.foldl State.updateDocuments documents).get? uri =
      history.foldl (Notice.revise uri) (documents.get? uri) := by
  induction history generalizing documents with
  | nil => rfl
  | cons notice history ih =>
      rw [List.foldl_cons, ih, Notice.get?_updateDocuments, List.foldl_cons]

/-- A notice about something else leaves the entry for a document as it is. -/
theorem Notice.revise_of_not_concerns {uri : Uri} {notice : Notice}
    (hnotice : notice.concerns uri = false) (entry : Option OpenDocument) :
    notice.revise uri entry = entry := by
  cases notice with
  | opened other languageId version text =>
      have huri : other ≠ uri := by simpa [concerns] using hnotice
      rw [revise, if_neg huri]
  | changed other version changes =>
      have huri : other ≠ uri := by simpa [concerns] using hnotice
      rw [revise, draft?, if_neg huri]
  | closed other =>
      have huri : other ≠ uri := by simpa [concerns] using hnotice
      rw [revise, if_neg huri]
  | configured settings => cases hnotice

namespace State

variable {uri : Uri} {left right : State}

/-- What a message leaves of a view depends on the view alone. -/
theorem view_next_congr (tables : Tables) (hview : left.view uri = right.view uri)
    (message : Incoming) :
    (left.next tables message).view uri = (right.next tables message).view uri := by
  have hentry : left.documents.get? uri = right.documents.get? uri := congrArg View.entry hview
  rw [eq_withDocuments hview, next_withDocuments]
  have hnext : (left.next tables message).documents.get? uri =
      (message.notice?.toList.foldl updateDocuments right.documents).get? uri := by
    rw [documents_next, Notice.get?_foldl_updateDocuments, Notice.get?_foldl_updateDocuments,
      hentry]
  simp only [view, withDocuments, hnext]

/-- A message that does not concern a document leaves the view of it alone. -/
theorem view_next_of_not_concerns (tables : Tables) (state : State) {message : Incoming}
    (hmessage : message.concerns uri = false) :
    (state.next tables message).view uri = state.view uri := by
  cases message with
  | request id method params => rw [(state.handles_request tables id method params).1]
  | response id result => cases hmessage
  | notification method params =>
      rw [Incoming.concerns] at hmessage
      rw [(state.handles_notification tables method params).1]
      cases hnotice : Notice.read? method params with
      | none => rfl
      | some notice =>
          rw [hnotice, Option.any_some] at hmessage
          have hentry : (updateDocuments state.documents notice).get? uri =
              state.documents.get? uri := by
            rw [Notice.get?_updateDocuments, Notice.revise_of_not_concerns hmessage]
          cases notice with
          | configured settings => cases hmessage
          | _ => simp only [Option.elim_some, heed, withDocuments, view, hentry]

/-- The answer to a request about a document is read off the view of it. -/
theorem reply_congr (tables : Tables) (hview : left.view uri = right.view uri)
    {request : Request} (hrequest : request.names uri = true) :
    left.reply tables request = right.reply tables request := by
  obtain ⟨query, hquery, huri⟩ := (Option.any_eq_true _ _).mp hrequest
  obtain ⟨served, hserved, hdecode⟩ := Option.bind_eq_some_iff.mp hquery
  have hentry : left.documents.get? query.uri = right.documents.get? query.uri := by
    rw [of_decide_eq_true huri]
    exact congrArg View.entry hview
  have hsettings : left.settings = right.settings := congrArg View.settings hview
  have hanswer : left.answer tables query = right.answer tables query := by
    rw [answer, answer, hentry, hsettings]
  rw [reply, reply, hserved]
  simp only [eq_ok_of_toOption hdecode, hanswer]

def exchange? (tables : Tables) (uri : Uri) (state : State) (message : Incoming) :
    Option (Request × Response) :=
  (message.request?.filter (Request.names uri)).map fun request =>
    (request, state.reply tables request)

theorem exchange?_congr (tables : Tables) (hview : left.view uri = right.view uri)
    (message : Incoming) :
    left.exchange? tables uri message = right.exchange? tables uri message := by
  apply Option.map_congr
  intro request hrequest
  rw [reply_congr tables hview (Option.filter_eq_some_iff.mp hrequest).2]

theorem exchange?_of_not_concerns (tables : Tables) (state : State) {message : Incoming}
    (hmessage : message.concerns uri = false) : state.exchange? tables uri message = none := by
  cases message with
  | request id method params =>
      have hnames : Request.names uri ⟨id, method, params⟩ = false := hmessage
      rw [exchange?, Incoming.request?, Option.filter_some_neg hnames]
      rfl
  | response id result => cases hmessage
  | notification method params => rfl

theorem exchangesAbout_serve_cons (tables : Tables) (uri : Uri) (state : State)
    {message : Incoming} (hmessage : message.isShutdown = false) (rest : List Incoming) :
    exchangesAbout uri (message :: rest) (state.serve tables .live (message :: rest)).sent =
      (state.exchange? tables uri message).toList ++
        exchangesAbout uri rest ((state.next tables message).serve tables .live rest).sent := by
  rw [exchangesAbout, exchanges, serve_cons tables state hmessage, Outcome.after,
    List.filterMap_append, filterMap_response?_emits, exchange?]
  cases hrequest : message.request? with
  | none =>
      rw [List.filterMap_cons_none hrequest]
      rfl
  | some request =>
      rw [List.filterMap_cons_some hrequest]
      cases hnames : request.names uri with
      | true =>
          rw [Option.filter_some_pos hnames]
          exact List.filter_cons_of_pos hnames
      | false =>
          rw [Option.filter_some_neg hnames]
          exact List.filter_cons_of_neg (Bool.eq_false_iff.mp hnames)

/-- What a run is to a document: the view of it at the end, and the exchanges about
it. -/
def observe (tables : Tables) (uri : Uri) (state : State) (messages : List Incoming) :
    View × List (Request × Response) :=
  let outcome := state.serve tables .live messages
  (outcome.state.view uri, exchangesAbout uri messages outcome.sent)

theorem observe_cons (tables : Tables) (uri : Uri) (state : State) {message : Incoming}
    (hmessage : message.isShutdown = false) (rest : List Incoming) :
    state.observe tables uri (message :: rest) =
      ((state.next tables message).observe tables uri rest).map id
        ((state.exchange? tables uri message).toList ++ ·) := by
  rw [observe, exchangesAbout_serve_cons tables uri state hmessage,
    serve_cons tables state hmessage]
  rfl

/-- To a document a run is the same as the run on the messages that concern it,
from any state with the same view of it. -/
theorem observe_filter_concerns (tables : Tables) (hview : left.view uri = right.view uri)
    {messages : List Incoming} (hmessages : Unstopped messages) :
    left.observe tables uri messages =
      right.observe tables uri (messages.filter (Incoming.concerns uri)) := by
  induction messages generalizing left right with
  | nil => exact congrArg (·, []) hview
  | cons message rest ih =>
      rw [observe_cons tables uri left hmessages.head]
      by_cases hconcerns : message.concerns uri = true
      · -- Both runs handle the message, in states with one view.
        rw [List.filter_cons_of_pos hconcerns, observe_cons tables uri right hmessages.head,
          exchange?_congr tables hview,
          ih (view_next_congr tables hview message) hmessages.tail]
      · -- Only the whole run handles it, and its state keeps the view.
        rw [Bool.not_eq_true] at hconcerns
        have hnext : (left.next tables message).view uri = right.view uri := by
          rw [view_next_of_not_concerns tables left hconcerns, hview]
        rw [List.filter_cons_of_neg (by simpa using hconcerns),
          exchange?_of_not_concerns tables left hconcerns, ih hnext hmessages.tail]
        rfl

/-- Every request about a document is in an exchange, with an answer to it. -/
theorem exchangesAbout_serve (tables : Tables) (uri : Uri) (state : State)
    {messages : List Incoming} (hmessages : Unstopped messages) :
    let exchanged := exchangesAbout uri messages (state.serve tables .live messages).sent
    exchanged.map Prod.fst = (messages.filterMap Incoming.request?).filter (Request.names uri) ∧
      ∀ exchange ∈ exchanged, Answers exchange.1 exchange.2 := by
  intro exchanged
  obtain ⟨hlength, hanswers⟩ :=
    List.forall₂_iff_zip.mp (state.forall₂_answers tables hmessages)
  constructor
  · have hrequests := List.map_fst_zip (Nat.le_of_eq hlength)
    rw [← hrequests, List.filter_map]
    rfl
  · intro exchange hexchange
    exact hanswers (List.mem_filter.mp hexchange).1

end State

/-- Documents do not interfere: two runs on the same messages about a document,
the settings and responses leave it with the same entry, the same settings and the
same requests under way, and answer the requests about it alike, whatever else the
two runs are sent. -/
theorem documents_do_not_interfere (tables : Tables) (state : State) (uri : Uri)
    {messages others : List Incoming} (hmessages : Unstopped messages)
    (hothers : Unstopped others)
    (hconcerns :
      messages.filter (Incoming.concerns uri) = others.filter (Incoming.concerns uri)) :
    let run := state.serve tables .live messages
    let other := state.serve tables .live others
    run.state.documents.get? uri = other.state.documents.get? uri ∧
      run.state.settings = other.state.settings ∧
      run.state.nextId = other.state.nextId ∧
      run.state.awaiting = other.state.awaiting ∧
      exchangesAbout uri messages run.sent = exchangesAbout uri others other.sent ∧
      (exchangesAbout uri messages run.sent).map Prod.fst =
        (messages.filterMap Incoming.request?).filter (Request.names uri) ∧
      ∀ exchange ∈ exchangesAbout uri messages run.sent, Answers exchange.1 exchange.2 := by
  intro run other
  have hobserve : state.observe tables uri messages = state.observe tables uri others := by
    rw [State.observe_filter_concerns tables rfl hmessages, hconcerns,
      ← State.observe_filter_concerns tables rfl hothers]
  obtain ⟨hview, hexchanges⟩ := Prod.mk.inj hobserve
  exact ⟨congrArg View.entry hview, congrArg View.settings hview, congrArg View.nextId hview,
    congrArg View.awaiting hview, hexchanges, State.exchangesAbout_serve tables uri state hmessages⟩

/-- Settings are asked for and a document is asked about, with and without another
document, malformed messages and unknown ones in between. -/
theorem documents_do_not_interfere_between :
    let place (uri : String) := Json.object [("textDocument", .object [("uri", .string uri)])]
    let opening (uri : String) : Incoming :=
      .notification "textDocument/didOpen" (.object [("textDocument",
        .object [("languageId", .string "ksp"), ("text", .string "on init"),
          ("uri", .string uri), ("version", .int 2)])])
    let asking : Incoming :=
      .notification "workspace/didChangeConfiguration" (.object [("settings", .null)])
    let outline (id : Int32) (uri : String) : Incoming :=
      .request (.number id) "textDocument/documentSymbol" (place uri)
    let messages := [opening "file:///a.ksp", asking, outline 7 "file:///a.ksp"]
    let others :=
      [opening "file:///b.ksp", opening "file:///a.ksp", outline 3 "file:///b.ksp", asking,
        .notification "textDocument/didClose" (place "file:///b.ksp"),
        .notification "textDocument/didChange" .null, .request (.number 7) "workspace/symbol" .null,
        outline 7 "file:///a.ksp", .request (.number 8) "textDocument/hover" .null]
    let run := (State.start none true).serve ⟨[], [], []⟩ .live
    let about (messages : List Incoming) :=
      exchangesAbout ⟨"file:///a.ksp"⟩ messages (run messages).sent
    Unstopped messages ∧ Unstopped others ∧
      (run messages).state.documents.get? ⟨"file:///a.ksp"⟩ =
        (run others).state.documents.get? ⟨"file:///a.ksp"⟩ ∧
      (run messages).state.nextId = (run others).state.nextId ∧
      about messages = about others ∧
      (about messages).map Prod.fst =
        [⟨.number 7, "textDocument/documentSymbol", place "file:///a.ksp"⟩] := by
  intro place opening asking outline messages others run about
  have hmessages : Unstopped messages := by decide
  have hothers : Unstopped others := by decide
  obtain ⟨hentry, -, hid, -, habout, hrequests, -⟩ :=
    documents_do_not_interfere ⟨[], [], []⟩ (State.start none true) ⟨"file:///a.ksp"⟩
      hmessages hothers rfl
  exact ⟨hmessages, hothers, hentry, hid, habout, hrequests⟩

end KontaktScript

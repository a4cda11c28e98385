import KontaktScript.Proofs.Run
import Mathlib.Data.List.Forall2

/-!
# Every request is answered

A run sends exactly one response for each request, in the order of the
requests.  Which of the three kinds of response it is depends on the request
alone: its method is unknown, its parameters are malformed, or there is a
result.  Requests leave the state alone, and no message causes more than one
message to be sent.
-/

namespace KontaktScript

def Response.FailsWith (response : Response) (code : Int32) : Prop :=
  ∃ error, response.error = some error ∧ error.code = code

namespace Request

def servedMethods : List String :=
  ["textDocument/hover", "textDocument/documentSymbol", "textDocument/definition",
    "textDocument/completion"]

/-- The parameters decode as those of the request's method. -/
def IsWellFormed (request : Request) : Prop :=
  ∃ served query, Method.ofName? request.method = some served ∧
    served.decode request.params = .ok query

end Request

/-- What the editor may rely on in the answer to a request. -/
structure Answers (request : Request) (response : Response) : Prop where
  id_eq : response.id = request.id
  methodNotFound_iff :
    response.FailsWith methodNotFoundCode ↔ request.method ∉ Request.servedMethods
  invalidParams_iff :
    response.FailsWith invalidParamsCode ↔
      request.method ∈ Request.servedMethods ∧ ¬ request.IsWellFormed
  result_of_wellFormed :
    request.method ∈ Request.servedMethods → request.IsWellFormed →
      response.result.isSome ∧ response.error = none
  not_internalError : ¬ response.FailsWith internalErrorCode

theorem Method.ofName?_eq_none_iff {name : String} :
    Method.ofName? name = none ↔ name ∉ Request.servedMethods := by
  rw [ofName?, List.find?_eq_none]
  simp [all, Method.name, Request.servedMethods, eq_comm]

@[simp]
theorem Response.failsWith_error (id : RequestId) (result : Option Json)
    (error : ResponseError) (code : Int32) :
    FailsWith ⟨id, result, some error⟩ code ↔ error.code = code := by
  simp [FailsWith]

@[simp]
theorem Response.not_failsWith_result (id : RequestId) (result : Option Json)
    (code : Int32) : ¬ FailsWith ⟨id, result, none⟩ code := by
  simp [FailsWith]

/-- The reply to a request is an answer to it, in any state. -/
theorem State.reply_answers (tables : Tables) (state : State) (request : Request) :
    Answers request (state.reply tables request) := by
  rw [State.reply]
  cases hmethod : Method.ofName? request.method with
  | none =>
      have hunserved := Method.ofName?_eq_none_iff.mp hmethod
      constructor <;> simp [Fault.unsupported, Fault.toResponse, hunserved] <;> decide
  | some served =>
      have hserved : request.method ∈ Request.servedMethods := by
        by_contra hunserved
        rw [Method.ofName?_eq_none_iff.mpr hunserved] at hmethod
        cases hmethod
      cases hdecode : served.decode request.params with
      | error cause =>
          have hmalformed : ¬ request.IsWellFormed := by
            rintro ⟨other, query, hother, hquery⟩
            rw [hmethod, Option.some.injEq] at hother
            rw [← hother, hdecode] at hquery
            cases hquery
          constructor <;>
            simp [Fault.malformed, Fault.toResponse, hserved, hmalformed, hdecode] <;> decide
      | ok query =>
          have hwellFormed : request.IsWellFormed := ⟨served, query, hmethod, hdecode⟩
          constructor <;> simp [hserved, hwellFormed, hdecode]

namespace Decoder

theorem item_ne_configured (json settings : Json) : item json ≠ .ok (.configured settings) := by
  intro hitem
  cases json with
  | object fields =>
      rw [item] at hitem
      iterate 8 obtain ⟨_, -, hitem⟩ := bind_eq_ok hitem
      cases hitem
  | array values =>
      rw [item] at hitem
      iterate 5 obtain ⟨_, -, hitem⟩ := bind_eq_ok hitem
      cases hitem
  | _ => cases hitem

theorem changed_ne_configured (json settings : Json) :
    changed json ≠ .ok (.configured settings) := by
  intro hchanged
  cases json with
  | object fields =>
      rw [changed] at hchanged
      iterate 4 obtain ⟨_, -, hchanged⟩ := bind_eq_ok hchanged
      cases hchanged
  | array values =>
      rw [changed] at hchanged
      iterate 3 obtain ⟨_, -, hchanged⟩ := bind_eq_ok hchanged
      cases hchanged
  | _ => cases hchanged

/-- A structure with a single field decodes to what the field decodes to. -/
theorem single_eq_ok {α : Type} {structureName field : String} {decode : Decoder α}
    {json : Json} {value : α} (hvalue : single structureName field decode json = .ok value) :
    ∃ part, decode part = .ok value := by
  cases json with
  | object fields =>
      rw [single] at hvalue
      obtain ⟨found, hfound, hvalue⟩ := bind_eq_ok hvalue
      cases found with
      | none => cases hvalue
      | some other =>
          cases hvalue
          exact present?_eq_ok_some hfound
  | array values =>
      rw [single] at hvalue
      obtain ⟨other, helement, hvalue⟩ := bind_eq_ok hvalue
      obtain ⟨_, -, hvalue⟩ := bind_eq_ok hvalue
      cases hvalue
      rw [element] at helement
      split at helement
      · exact ⟨_, helement⟩
      · cases helement
  | _ => cases hvalue

end Decoder

/-- Only one method brings settings. -/
theorem Notice.method_of_read?_configured {method : String} {params settings : Json}
    (hnotice : Notice.read? method params = some (.configured settings)) :
    method = "workspace/didChangeConfiguration" := by
  obtain ⟨topic, htopic, hdecode⟩ := Option.bind_eq_some_iff.mp hnotice
  have hok := eq_ok_of_toOption hdecode
  rw [← Topic.name_of_ofName? htopic]
  cases topic with
  | opened =>
      obtain ⟨part, hpart⟩ := Decoder.single_eq_ok hok
      exact absurd hpart (Decoder.item_ne_configured part settings)
  | changed => exact absurd hok (Decoder.changed_ne_configured params settings)
  | closed =>
      obtain ⟨uri, -, huri⟩ := map_eq_ok hok
      cases huri
  | configured => rfl

/-- A notification that brings no settings is silent. -/
theorem State.emits_notification (tables : Tables) (state : State) {method : String}
    (params : Json) (hmethod : method ≠ "workspace/didChangeConfiguration") :
    state.emits tables (.notification method params) = [] := by
  rw [(state.handles_notification tables method params).2]
  cases hnotice : Notice.read? method params with
  | none => rfl
  | some notice =>
      cases notice with
      | configured settings =>
          exact absurd (Notice.method_of_read?_configured hnotice) hmethod
      | opened uri languageId version text => rfl
      | changed uri version changes => rfl
      | closed uri => rfl

theorem State.forall₂_answers (tables : Tables) (state : State) {messages : List Incoming}
    (hmessages : Unstopped messages) :
    List.Forall₂ Answers (messages.filterMap Incoming.request?)
      ((state.serve tables .live messages).sent.filterMap Outgoing.response?) := by
  induction messages generalizing state with
  | nil => exact .nil
  | cons message rest ih =>
      have hrest := ih (state.next tables message) hmessages.tail
      rw [serve_cons tables state hmessages.head, Outcome.after, List.filterMap_append,
        filterMap_response?_emits]
      cases hrequest : message.request? with
      | none =>
          simp only [List.filterMap_cons, hrequest]
          exact hrest
      | some request =>
          simp only [List.filterMap_cons, hrequest]
          exact .cons (reply_answers tables state request) hrest

/-- A run that the editor does not stop takes every message and answers every
request, whatever the state it starts in.  Each message adds at most one
message to what is sent; a request adds just its answer and leaves the state as
it is, and a notification adds something only if it brings settings. -/
theorem serve_answers_requests (tables : Tables) (state : State) {messages : List Incoming}
    (hmessages : Unstopped messages) :
    let run := state.serve tables .live
    (run messages).fault = none ∧ (run messages).unread = 0 ∧
      List.Forall₂ Answers (messages.filterMap Incoming.request?)
        ((run messages).sent.filterMap Outgoing.response?) ∧
      ∀ before message behind, messages = before ++ message :: behind →
        ∃ caused later, (run (before ++ [message])).sent = (run before).sent ++ caused ∧
          (run messages).sent = (run before).sent ++ caused ++ later ∧
          caused.length ≤ 1 ∧
          (∀ request, message.request? = some request →
            (run (before ++ [message])).state = (run before).state ∧
              ∃ response, caused = [.response response] ∧ Answers request response) ∧
          (∀ method params, message = .notification method params →
            method ≠ "workspace/didChangeConfiguration" → caused = []) := by
  intro run
  obtain ⟨hfault, hunread⟩ := state.serve_finishes tables hmessages
  refine ⟨hfault, hunread, state.forall₂_answers tables hmessages, ?_⟩
  intro before message behind hsplit
  rw [List.append_cons] at hsplit
  have hsofar : Unstopped (before ++ [message]) := by
    rw [hsplit] at hmessages
    exact hmessages.left
  let earlier := run before
  let later := (run (before ++ [message])).state.serve tables .live behind
  obtain ⟨hstate, hsent⟩ := state.serve_concat tables hsofar
  have hwhole : (run messages).sent = (run (before ++ [message])).sent ++ later.sent := by
    rw [hsplit]
    exact congrArg Outcome.sent (state.serve_append tables hsofar behind)
  refine ⟨earlier.state.emits tables message, later.sent, hsent, ?_,
    State.length_emits_le_one tables earlier.state message, ?_, ?_⟩
  · rw [hwhole]
    exact congrArg (· ++ later.sent) hsent
  · intro request hrequest
    cases message with
    | request id method params =>
        cases hrequest
        obtain ⟨hnext, hemits⟩ := earlier.state.handles_request tables id method params
        exact ⟨hstate.trans hnext, _, hemits,
          earlier.state.reply_answers tables ⟨id, method, params⟩⟩
    | response id result => cases hrequest
    | notification method params => cases hrequest
  · rintro method params rfl hmethod
    exact earlier.state.emits_notification tables params hmethod

/-- A well-formed request gets a result, and a malformed one and an unknown one, with an
id that was used before, get errors. -/
theorem serve_answers_requests_of_all_kinds :
    let place := Json.object [("textDocument", .object [("uri", .string "file:///a.ksp")])]
    let messages : List Incoming :=
      [.notification "textDocument/didClose" place,
        .request (.number 7) "textDocument/documentSymbol" place,
        .request (.name "x") "textDocument/hover" .null,
        .request (.number 7) "workspace/symbol" .null]
    let outcome := (State.start none true).serve ⟨[], [], []⟩ .live messages
    Unstopped messages ∧ outcome.fault = none ∧ outcome.unread = 0 ∧
      ∃ first second third,
        outcome.sent.filterMap Outgoing.response? = [first, second, third] ∧
        first.id = .number 7 ∧ first.result.isSome ∧ first.error = none ∧
        second.id = .name "x" ∧ second.FailsWith invalidParamsCode ∧
        third.id = .number 7 ∧ third.FailsWith methodNotFoundCode := by
  intro place messages outcome
  have hmessages : Unstopped messages := by decide
  obtain ⟨hfault, hunread, hanswers, -⟩ :=
    serve_answers_requests ⟨[], [], []⟩ (State.start none true) hmessages
  have hwellFormed : Request.IsWellFormed ⟨.number 7, "textDocument/documentSymbol", place⟩ :=
    ⟨.outline, .outline ⟨"file:///a.ksp"⟩, rfl, rfl⟩
  have hmalformed : ¬ Request.IsWellFormed ⟨.name "x", "textDocument/hover", .null⟩ := by
    rintro ⟨served, query, hserved, hquery⟩
    cases hserved
    cases hquery
  obtain ⟨first, _, hfirst, hothers, hsent⟩ := List.forall₂_cons_left_iff.mp hanswers
  obtain ⟨second, _, hsecond, hlast, rfl⟩ := List.forall₂_cons_left_iff.mp hothers
  obtain ⟨third, _, hthird, hnone, rfl⟩ := List.forall₂_cons_left_iff.mp hlast
  rw [List.forall₂_nil_left_iff.mp hnone] at hsent
  obtain ⟨hresult, herror⟩ := hfirst.result_of_wellFormed (by decide) hwellFormed
  exact ⟨hmessages, hfault, hunread, first, second, third, hsent, hfirst.id_eq, hresult, herror,
    hsecond.id_eq, hsecond.invalidParams_iff.mpr ⟨by decide, hmalformed⟩, hthird.id_eq,
    hthird.methodNotFound_iff.mpr (by decide)⟩

end KontaktScript

import KontaktScript.Proofs.Dispatch
import KontaktScript.Server.Query

/-!
# The reply to a request

Handling a request comes to sending its reply.  It may be the handler of a query that
sends it, on one of many paths, or the report of a fault behind the routes.  In any
case it is sent once, and nothing else is done.
-/

namespace KontaktScript

def Query.answer (tables : Tables) (settings : Settings) (doc : Document) : Query → Json
  | .hover _ position =>
      ((Hover.at? tables settings doc position).map Hover.toJson).getD .null
  | .outline _ => .array ((KontaktScript.outline doc).map OutlineEntry.toJson)
  | .definition uri position =>
      ((Location.ofDefinition? uri doc position).map Location.toJson).getD .null
  | .completion _ position =>
      let line := (doc.pointOf position).line.toNat
      .array ((completions tables doc line settings.completeBuiltins).map CompletionItem.toJson)

/-- The answer to a query: null unless it names an open script. -/
def State.answer (tables : Tables) (state : State) (query : Query) : Json :=
  match state.documents.get? query.uri with
  | none => .null
  | some source =>
      match source.language with
      | .unknown => .null
      | .ksp => query.answer tables state.settings source.document

namespace Action

variable (tables : Tables) (id : RequestId) (doc : Document) (position : Position) (desk : Desk)

theorem run_atIdentifier (next : Token → Action Unit) :
    (atIdentifier id doc position next).run desk =
      ((identifierAt? doc position).elim (respondNull id) next).run desk := by
  unfold atIdentifier identifierAt?
  cases Token.at? doc (doc.pointOf position) with
  | none => rfl
  | some token =>
      simp only [Option.filter_some]
      cases isIdentifier token.text with
      | false => rfl
      | true => rfl

theorem run_hover :
    (hover tables id doc position).run desk =
      (respond id (((Hover.at? tables desk.state.settings doc position).map
        Hover.toJson).getD .null)).run desk := by
  rw [hover, run_atIdentifier, Hover.at?]
  cases identifierAt? doc position with
  | none => rfl
  | some token =>
      simp only [Option.elim_some, EStateM.run_bind, EStateM.run_get, Option.bind_eq_bind,
        Option.bind_some]
      cases Hover.contents? tables desk.state.settings doc token.text with
      | none => rfl
      | some contents => rfl

theorem run_definition (uri : Uri) :
    (definition id uri doc position).run desk =
      (respond id (((Location.ofDefinition? uri doc position).map
        Location.toJson).getD .null)).run desk := by
  rw [definition, run_atIdentifier, Location.ofDefinition?, declarationAt?]
  cases identifierAt? doc position with
  | none => rfl
  | some token =>
      simp only [Option.elim_some, Option.bind_eq_bind, Option.bind_some]
      cases resolve? (declarations doc none) token.text with
      | none => rfl
      | some declaration => rfl

/-- Every path through a query sends its answer. -/
theorem run_onQuery (query : Query) :
    (onQuery tables id query).run desk =
      (respond id (desk.state.answer tables query)).run desk := by
  simp only [onQuery, State.answer, EStateM.run_bind, EStateM.run_get]
  cases desk.state.documents.get? query.uri with
  | none => rfl
  | some source =>
      cases hlanguage : source.language with
      | unknown =>
          simp only [hlanguage]
          rfl
      | ksp =>
          simp only [hlanguage]
          cases query with
          | hover uri position => exact run_hover tables id source.document position desk
          | outline uri => rfl
          | definition uri position => exact run_definition id source.document position desk uri
          | completion uri position => rfl

end Action

def Method.ofName? (name : String) : Option Method :=
  Method.all.find? (·.name = name)

theorem Method.name_of_ofName? {name : String} {method : Method}
    (hmethod : ofName? name = some method) : method.name = name := by
  simpa using List.find?_some hmethod

/-- The response to a request. -/
def State.reply (tables : Tables) (state : State) (request : Request) : Response :=
  match Method.ofName? request.method with
  | none => (Fault.unsupported request.method).toResponse request.id methodNotFoundCode
  | some method =>
      match method.decode request.params with
      | .error cause =>
          (Fault.malformed request.method cause).toResponse request.id invalidParamsCode
      | .ok query => ⟨request.id, some (state.answer tables query), none⟩

namespace Action

variable (tables : Tables) {method : Method} {request : Request} (desk : Desk)

theorem run_tryQuery_of_ne (hmethod : request.method ≠ method.name) :
    (tryQuery tables method request).run desk = .ok (.pass request) desk := by
  rw [tryQuery, if_neg hmethod]
  rfl

theorem run_tryQuery_of_error (hmethod : request.method = method.name) {cause : DecodeError}
    (hdecode : method.decode request.params = .error cause) :
    (tryQuery tables method request).run desk =
      .ok (.done (.error ((Fault.malformed request.method cause).answering request.id
        invalidParamsCode))) desk := by
  rw [tryQuery, if_pos hmethod, hdecode]
  rfl

/-- A query that is answered leaves no fault. -/
theorem run_tryQuery_live (hmethod : request.method = method.name) {query : Query}
    (hdecode : method.decode request.params = .ok query) (state : State) (sent : List Outgoing) :
    (tryQuery tables method request).run ⟨.live, state, sent⟩ =
      .ok (.done (.ok ())) ⟨.live, state,
        sent ++ [.response ⟨request.id, some (state.answer tables query), none⟩]⟩ := by
  rw [tryQuery, if_pos hmethod, hdecode]
  have hquery := run_onQuery tables request.id ⟨.live, state, sent⟩ query
  simp only [EStateM.run_bind, run_observing_of_ok (hquery.trans (run_send_live _ _ _))]
  rfl

/-- One that cannot be answered leaves the fault that sending failed. -/
theorem run_tryQuery_lost (hmethod : request.method = method.name) {query : Query}
    (hdecode : method.decode request.params = .ok query) (state : State) (sent : List Outgoing) :
    (tryQuery tables method request).run ⟨.lost, state, sent⟩ =
      .ok (.done (.error .send)) ⟨.lost, state, sent⟩ := by
  rw [tryQuery, if_pos hmethod, hdecode]
  have hquery := run_onQuery tables request.id ⟨.lost, state, sent⟩ query
  simp only [EStateM.run_bind, run_observing_of_error (hquery.trans (run_send_lost _ _ _))]
  rfl

theorem exists_run_tryQuery (hmethod : request.method = method.name) :
    ∃ result after, (tryQuery tables method request).run desk = .ok (.done result) after := by
  cases hdecode : method.decode request.params with
  | error cause => exact ⟨_, _, run_tryQuery_of_error tables desk hmethod hdecode⟩
  | ok query =>
      rcases desk with ⟨link, state, sent⟩
      cases link with
      | live => exact ⟨_, _, run_tryQuery_live tables hmethod hdecode state sent⟩
      | lost => exact ⟨_, _, run_tryQuery_lost tables hmethod hdecode state sent⟩

theorem run_dispatch_queries (request : Request) :
    (dispatch (Method.all.map (tryQuery tables)) request).run desk =
      ((Method.ofName? request.method).elim (pure (.pass request))
        (tryQuery tables · request)).run desk := by
  apply run_dispatch_map
  · intro method hmethod
    exact run_tryQuery_of_ne tables desk (Ne.symm (of_decide_eq_false hmethod))
  · intro method hmethod
    exact exists_run_tryQuery tables desk (of_decide_eq_true hmethod).symm

/-- Handling a request comes to sending its reply, once, whichever route it takes and
whichever layer makes the reply. -/
theorem run_onRequest (request : Request) :
    (onRequest tables request).run desk =
      (send (.response (desk.state.reply tables request))).run desk := by
  rw [onRequest, EStateM.run_bind, run_dispatch_queries, State.reply]
  cases hmethod : Method.ofName? request.method with
  | none => rfl
  | some method =>
      have hname : request.method = method.name := (Method.name_of_ofName? hmethod).symm
      rw [Option.elim_some]
      cases hdecode : method.decode request.params with
      | error cause =>
          rw [run_tryQuery_of_error tables desk hname hdecode]
          simp only [hdecode]
          rfl
      | ok query =>
          rcases desk with ⟨link, state, sent⟩
          cases link with
          | live =>
              rw [run_tryQuery_live tables hname hdecode]
              simp only [hdecode]
              rfl
          | lost =>
              rw [run_tryQuery_lost tables hname hdecode]
              rfl

theorem isModest_onRequest (request : Request) : (onRequest tables request).IsModest :=
  isModest_of_run (fun state => state) (fun state => send (.response (state.reply tables request)))
    (fun _ _ _ => run_onRequest tables _ request) fun _ => isModest_send _

end Action

end KontaktScript

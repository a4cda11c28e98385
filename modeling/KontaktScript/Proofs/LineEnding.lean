import KontaktScript.Proofs.Definition
import KontaktScript.Proofs.Isolation

/-!
# Line endings do not matter

A carriage return before a line feed belongs to the terminator of the line.  A text
whose line feeds have none before them therefore has the same lines as the text in
which each is given one, although all byte offsets differ.  Every answer about a
document is read off its lines, so nothing that the server sends tells the two
apart, whatever it is sent later.
-/

namespace KontaktScript

open Text

namespace Text

/-- The text with a carriage return put before every line feed. -/
def withReturns (text : List Char) : List Char :=
  text.flatMap fun c => if c = '\n' then ['\r', '\n'] else [c]

theorem withReturns_of_not_mem {line : List Char} (hline : '\n' ∉ line) :
    withReturns line = line := by
  induction line with
  | nil => rfl
  | cons c line ih =>
      have hc : c ≠ '\n' := fun heq => hline (by simp [heq])
      have htail : '\n' ∉ line := fun hmem => hline (List.mem_cons_of_mem c hmem)
      rw [withReturns, List.flatMap_cons, if_neg hc, ← withReturns, ih htail]
      rfl

theorem withReturns_append_feed {line : List Char} (hline : '\n' ∉ line) (rest : List Char) :
    withReturns (line ++ '\n' :: rest) = (line ++ ['\r']) ++ '\n' :: withReturns rest := by
  have hfirst := withReturns_of_not_mem hline
  rw [withReturns] at hfirst
  rw [withReturns, List.flatMap_append, List.flatMap_cons, hfirst, if_pos rfl, List.append_assoc]
  rfl

end Text

namespace Document

theorem dropReturn_concat (line : List Char) : dropReturn (line ++ ['\r']) = line := by
  rw [dropReturn_eq_iff]
  exact .inl rfl

theorem dropReturn_of_ne {line : List Char} (hline : line.getLast? ≠ some '\r') :
    dropReturn line = line :=
  if_neg hline

/-- Between its line feeds a text with returns has the pieces of the text without, but
for the returns that belong to terminators. -/
theorem map_dropReturn_splitOn_withReturns {text : List Char}
    (htext : ¬ ['\r', '\n'] <:+: text) :
    ((withReturns text).splitOn '\n').map dropReturn = (text.splitOn '\n').map dropReturn := by
  induction text using lines_induction with
  | last line hline => rw [withReturns_of_not_mem hline]
  | more line rest hline ih =>
      have hreturn : '\n' ∉ line ++ ['\r'] := by
        simp [hline]
      have hlast : line.getLast? ≠ some '\r' := by
        intro hlast
        obtain ⟨left, rfl⟩ := List.getLast?_eq_some_iff.mp hlast
        exact htext ⟨left, rest, by simp⟩
      have hrest : ¬ ['\r', '\n'] <:+: rest := by
        intro hoccurs
        apply htext
        exact hoccurs.trans ⟨line ++ ['\n'], [], by simp⟩
      rw [withReturns_append_feed hline, List.splitOn_append_cons_self_of_not_mem hreturn,
        List.splitOn_append_cons_self_of_not_mem hline, List.map_cons, List.map_cons,
        dropReturn_concat, dropReturn_of_ne hlast, ih hrest]

/-- Two documents have the same lines, whatever bytes these take. -/
def SameLines (left right : Document) : Prop :=
  ∀ i, left.line? i = right.line? i

theorem sameLines_withReturns {text : String} (htext : ¬ ['\r', '\n'] <:+: text.toList) :
    (ofString text).SameLines (ofString (String.ofList (withReturns text.toList))) := by
  intro i
  have hpieces : ∀ doc : Document, doc.line? i = (doc.pieces.map dropReturn)[i]? := by
    intro doc
    rw [line?_eq, List.getElem?_map]
  rw [hpieces, hpieces, pieces, pieces, ofString, ofString, String.toList_ofList,
    map_dropReturn_splitOn_withReturns htext]

namespace SameLines

variable {left right : Document}

theorem refl (doc : Document) : doc.SameLines doc := fun _ => rfl

theorem lineCount_eq (hsame : left.SameLines right) : left.lineCount = right.lineCount := by
  apply Nat.le_antisymm
  · rw [← left.line?_eq_none_iff, hsame, right.line?_eq_none_iff]
  · rw [← right.line?_eq_none_iff, ← hsame, left.line?_eq_none_iff]

theorem lineText_eq (hsame : left.SameLines right) : left.lineText = right.lineText := by
  funext i
  rw [lineText, lineText, hsame]

theorem pointOf_eq (hsame : left.SameLines right) : left.pointOf = right.pointOf := by
  funext position
  rw [pointOf, pointOf, hsame.lineText_eq]

theorem rangeOf_eq (hsame : left.SameLines right) : left.rangeOf = right.rangeOf := by
  have hposition : left.positionOf = right.positionOf := by
    funext point
    rw [positionOf, positionOf, hsame.lineText_eq]
  funext span
  rw [rangeOf, rangeOf, hposition]

theorem at?_eq (hsame : left.SameLines right) : Token.at? left = Token.at? right := by
  funext point
  rw [Token.at?, Token.at?, hsame]

theorem declarations_eq (hsame : left.SameLines right) :
    declarations left = declarations right := by
  have hcount : LineSource.lineCount left = LineSource.lineCount right := hsame.lineCount_eq
  have htext : LineSource.lineText left = LineSource.lineText right := hsame.lineText_eq
  funext stop
  have hscanned : scannedLines left stop = scannedLines right stop := by
    cases stop with
    | none => exact hcount
    | some stop => exact congrArg (min stop) hcount
  rw [declarations, declarations, hscanned, htext]

theorem identifierAt?_eq (hsame : left.SameLines right) :
    identifierAt? left = identifierAt? right := by
  funext position
  rw [identifierAt?, identifierAt?, hsame.at?_eq, hsame.pointOf_eq]

theorem hover_eq (hsame : left.SameLines right) (tables : Tables) (settings : Settings) :
    Hover.at? tables settings left = Hover.at? tables settings right := by
  have hcontents :
      Hover.contents? tables settings left = Hover.contents? tables settings right := by
    funext identifier
    rw [Hover.contents?, Hover.contents?, hsame.declarations_eq]
  funext position
  rw [Hover.at?, Hover.at?, hsame.identifierAt?_eq, hcontents, hsame.rangeOf_eq]

theorem outline_eq (hsame : left.SameLines right) : outline left = outline right := by
  have hentry : OutlineEntry.ofDeclaration left = OutlineEntry.ofDeclaration right := by
    funext declaration
    rw [OutlineEntry.ofDeclaration, OutlineEntry.ofDeclaration, hsame.rangeOf_eq]
  rw [outline, outline, hsame.declarations_eq, hentry]

theorem definition_eq (hsame : left.SameLines right) (uri : Uri) :
    Location.ofDefinition? uri left = Location.ofDefinition? uri right := by
  funext position
  rw [Location.ofDefinition?, Location.ofDefinition?, declarationAt?, declarationAt?,
    hsame.identifierAt?_eq, hsame.declarations_eq, hsame.rangeOf_eq]

theorem completions_eq (hsame : left.SameLines right) (tables : Tables) :
    completions tables left = completions tables right := by
  funext line builtins
  rw [completions, completions, CompletionItem.candidates, CompletionItem.candidates,
    CompletionItem.ofDeclarations, CompletionItem.ofDeclarations, hsame.declarations_eq]

theorem answer_eq (hsame : left.SameLines right) (tables : Tables) (settings : Settings)
    (query : Query) : query.answer tables settings left = query.answer tables settings right := by
  cases query with
  | hover uri position => rw [Query.answer, Query.answer, hsame.hover_eq]
  | outline uri => rw [Query.answer, Query.answer, hsame.outline_eq]
  | definition uri position => rw [Query.answer, Query.answer, hsame.definition_eq]
  | completion uri position =>
      rw [Query.answer, Query.answer, hsame.completions_eq, hsame.pointOf_eq]

end SameLines

end Document

/-- Open documents with the same lines, in one language and version. -/
structure OpenDocument.Alike (left right : OpenDocument) : Prop where
  sameLines : left.document.SameLines right.document
  language_eq : left.language = right.language
  version_eq : left.version = right.version

theorem OpenDocument.Alike.refl (source : OpenDocument) : source.Alike source :=
  ⟨Document.SameLines.refl source.document, rfl, rfl⟩

theorem OpenDocument.Alike.amend {left right : OpenDocument} (halike : left.Alike right)
    (draft : Draft) : (left.amend draft).Alike (right.amend draft) := by
  rw [OpenDocument.amend, OpenDocument.amend, halike.version_eq, halike.language_eq]
  split
  · exact halike
  · exact .refl _

/-- A notice leaves entries alike that were alike. -/
theorem Notice.revise_alike (uri : Uri) {left right : Option OpenDocument}
    (halike : Option.Rel OpenDocument.Alike left right) (notice : Notice) :
    Option.Rel OpenDocument.Alike (notice.revise uri left) (notice.revise uri right) := by
  cases notice with
  | opened other languageId version text =>
      rw [revise, revise]
      split
      · exact .some (.refl _)
      · exact halike
  | changed other version changes =>
      rw [revise, revise]
      cases (changed other version changes).draft? uri with
      | none => exact halike
      | some draft =>
          cases halike with
          | none => exact .none
          | some hsources => exact .some (hsources.amend draft)
  | closed other =>
      rw [revise, revise]
      split
      · exact .none
      · exact halike
  | configured settings => exact halike

/-- States that differ in nothing but the bytes of their documents. -/
structure State.Alike (left right : State) : Prop where
  documents : ∀ uri,
    Option.Rel OpenDocument.Alike (left.documents.get? uri) (right.documents.get? uri)
  eq_withDocuments : right = left.withDocuments right.documents

namespace State

variable {left right : State}

theorem Alike.answer_eq (halike : left.Alike right) (tables : Tables) (query : Query) :
    left.answer tables query = right.answer tables query := by
  have hsettings : right.settings = left.settings := by
    rw [halike.eq_withDocuments]
    rfl
  have hentry := halike.documents query.uri
  rw [answer, answer, hsettings]
  generalize left.documents.get? query.uri = entry at hentry ⊢
  generalize right.documents.get? query.uri = other at hentry ⊢
  cases hentry with
  | none => rfl
  | some hsources =>
      simp only [hsources.language_eq, hsources.sameLines.answer_eq]

/-- What a message causes to be sent is the same in both states. -/
theorem Alike.emits_eq (halike : left.Alike right) (tables : Tables) (message : Incoming) :
    left.emits tables message = right.emits tables message := by
  cases message with
  | request id method params =>
      have hanswer : left.answer tables = right.answer tables := by
        funext query
        exact halike.answer_eq tables query
      rw [(left.handles_request tables id method params).2,
        (right.handles_request tables id method params).2, reply, reply, hanswer]
  | response id result =>
      rw [(left.handles_response tables id result).2,
        (right.handles_response tables id result).2, halike.eq_withDocuments]
      rfl
  | notification method params =>
      rw [(left.handles_notification tables method params).2,
        (right.handles_notification tables method params).2, halike.eq_withDocuments]
      cases Notice.read? method params with
      | none => rfl
      | some notice =>
          cases notice with
          | configured settings => rfl
          | opened uri languageId version text => rfl
          | changed uri version changes => rfl
          | closed uri => rfl

/-- After any message the two states are still alike. -/
theorem Alike.next (halike : left.Alike right) (tables : Tables) (message : Incoming) :
    (left.next tables message).Alike (right.next tables message) where
  documents uri := by
    rw [documents_next, documents_next, Notice.get?_foldl_updateDocuments,
      Notice.get?_foldl_updateDocuments]
    cases message.notice? with
    | none => exact halike.documents uri
    | some notice => exact Notice.revise_alike uri (halike.documents uri) notice
  eq_withDocuments := by
    rw [documents_next tables right]
    conv_lhs => rw [halike.eq_withDocuments, next_withDocuments]

/-- A shutdown is answered, and nothing is sent behind it. -/
theorem sent_serve_shutdown (tables : Tables) (state : State) (id : RequestId) (params : Json)
    (rest : List Incoming) :
    (state.serve tables .live (.request id "shutdown" params :: rest)).sent =
      [Stage.nullResponse id] := by
  have hrest : (converse tables .live (.closing state) rest).sent = [] := by
    cases rest with
    | nil => rfl
    | cons message rest =>
        cases hexit : message.isExit with
        | true => simp only [converse, Stage.step, hexit, if_true]
        | false => simp only [converse, Stage.step, hexit, Bool.false_eq_true, if_false]
  simp only [serve, converse, Stage.step, if_true, Stage.trySend, hrest, List.append_nil]

/-- Hence the same is sent in the course of a run. -/
theorem Alike.sent_eq (halike : left.Alike right) (tables : Tables) (messages : List Incoming) :
    (left.serve tables .live messages).sent = (right.serve tables .live messages).sent := by
  induction messages generalizing left right with
  | nil => rfl
  | cons message rest ih =>
      cases hshutdown : message.isShutdown with
      | false =>
          rw [serve_cons tables left hshutdown, serve_cons tables right hshutdown,
            Outcome.after, Outcome.after, halike.emits_eq, ih (halike.next tables message)]
      | true =>
          cases message with
          | request id method params =>
              have hmethod : method = "shutdown" := by
                simpa [Incoming.isShutdown] using hshutdown
              rw [hmethod, sent_serve_shutdown, sent_serve_shutdown]
          | response id result => cases hshutdown
          | notification method params => cases hshutdown

theorem handles_notice (tables : Tables) (state : State) {message : Incoming} {notice : Notice}
    (hnotice : message.notice? = some notice) :
    state.next tables message = state.heed notice ∧
      state.emits tables message = state.heedEmits notice := by
  cases message with
  | request id method params => cases hnotice
  | response id result => cases hnotice
  | notification method params =>
      have hread : Notice.read? method params = some notice := hnotice
      have hhandles := state.handles_notification tables method params
      rwa [hread] at hhandles

theorem isShutdown_of_notice? {message : Incoming} {notice : Notice}
    (hnotice : message.notice? = some notice) : message.isShutdown = false := by
  cases message with
  | request id method params => cases hnotice
  | response id result => rfl
  | notification method params => rfl

section Opened

variable (tables : Tables) (state : State) {message : Incoming} {uri : Uri}
  {languageId text : String} {version : Int32}

/-- A message that opens a document only adds it. -/
theorem next_of_opened
    (hopened : message.notice? = some (.opened uri languageId version text)) :
    state.next tables message = state.withDocuments
      (state.documents.insert uri ⟨.ofString text, .detect languageId uri, version⟩) := by
  rw [(handles_notice tables state hopened).1]
  rfl

/-- It is no request, so nothing is sent on its account. -/
theorem sent_serve_opened
    (hopened : message.notice? = some (.opened uri languageId version text))
    (rest : List Incoming) :
    (state.serve tables .live (message :: rest)).sent =
      ((state.next tables message).serve tables .live rest).sent := by
  have hemits : state.emits tables message = [] := by
    rw [(handles_notice tables state hopened).2]
    rfl
  rw [serve_cons tables state (isShutdown_of_notice? hopened), hemits]
  rfl

end Opened

theorem alike_insert (state : State) (uri : Uri) {source other : OpenDocument}
    (hsources : source.Alike other) :
    (state.withDocuments (state.documents.insert uri source)).Alike
      (state.withDocuments (state.documents.insert uri other)) where
  documents key := by
    change Option.Rel OpenDocument.Alike ((state.documents.insert uri source).get? key)
      ((state.documents.insert uri other).get? key)
    rw [Store.get?_insert, Store.get?_insert]
    split
    · exact .some hsources
    · cases state.documents.get? key with
      | none => exact .none
      | some entry => exact .some (.refl entry)
  eq_withDocuments := rfl

end State

/-- Line endings do not matter.  A text without a carriage return before a line feed is
opened, or the same text with one before each.  All queries are then answered alike, and
the same is sent whatever messages follow. -/
theorem line_endings_do_not_matter (tables : Tables) (state : State) {opening other : Incoming}
    {uri : Uri} {languageId text : String} {version : Int32}
    (htext : ¬ ['\r', '\n'] <:+: text.toList)
    (hopening : opening.notice? = some (.opened uri languageId version text))
    (hother : other.notice? =
      some (.opened uri languageId version (String.ofList (withReturns text.toList)))) :
    (∀ query, (state.next tables opening).answer tables query =
        (state.next tables other).answer tables query) ∧
      ∀ messages, (state.serve tables .live (opening :: messages)).sent =
        (state.serve tables .live (other :: messages)).sent := by
  have hsources : OpenDocument.Alike ⟨.ofString text, .detect languageId uri, version⟩
      ⟨.ofString (String.ofList (withReturns text.toList)), .detect languageId uri, version⟩ :=
    ⟨Document.sameLines_withReturns htext, rfl, rfl⟩
  have halike : (state.next tables opening).Alike (state.next tables other) := by
    rw [State.next_of_opened tables state hopening, State.next_of_opened tables state hother]
    exact state.alike_insert uri hsources
  refine ⟨halike.answer_eq tables, ?_⟩
  intro messages
  rw [State.sent_serve_opened tables state hopening, State.sent_serve_opened tables state hother]
  exact halike.sent_eq tables messages

/-- The declaration of a variable is found behind a character of two units, in a text in
which a carriage return stands inside a line and another at the very end. -/
theorem line_endings_do_not_matter_but_returns_stay :
    let text := "on init\ndeclare $k\r \n\"𝄞\" & $k\r"
    let returned := "on init\r\ndeclare $k\r \r\n\"𝄞\" & $k\r"
    let opening (text : String) : Incoming := .notification "textDocument/didOpen"
      (.object [("textDocument",
        .object [("languageId", .string "ksp"), ("text", .string text),
          ("uri", .string "file:///a.ksp"), ("version", .int 1)])])
    let outline : Incoming := .request (.number 1) "textDocument/documentSymbol"
      (.object [("textDocument", .object [("uri", .string "file:///a.ksp")])])
    let start := State.start none false
    let answer (text : String) := (start.next ⟨[], [], []⟩ (opening text)).answer ⟨[], [], []⟩
      (.definition ⟨"file:///a.ksp"⟩ ⟨2, 8⟩)
    ¬ ['\r', '\n'] <:+: text.toList ∧
      String.ofList (withReturns text.toList) = returned ∧
      answer text = answer returned ∧ answer text ≠ .null ∧
      (start.serve ⟨[], [], []⟩ .live [opening text, outline]).sent =
        (start.serve ⟨[], [], []⟩ .live [opening returned, outline]).sent := by
  intro text returned opening outline start answer
  have htext : ¬ ['\r', '\n'] <:+: text.toList := by decide +kernel
  have hreturned : String.ofList (withReturns text.toList) = returned := by decide +kernel
  have hopening : ∀ text, (opening text).notice? =
      some (.opened ⟨"file:///a.ksp"⟩ "ksp" 1 text) := fun _ => rfl
  have hother : (opening returned).notice? = some (.opened ⟨"file:///a.ksp"⟩ "ksp" 1
      (String.ofList (withReturns text.toList))) := by
    rw [hreturned]
    exact hopening returned
  obtain ⟨hanswer, hsent⟩ := line_endings_do_not_matter ⟨[], [], []⟩ start htext
    (hopening text) hother
  have hdeclared : (declarationAt? (.ofString text) ⟨2, 8⟩).isSome = true := by decide +kernel
  have hfound : answer text ≠ .null := by
    obtain ⟨declaration, hdeclaration⟩ := Option.isSome_iff_exists.mp hdeclared
    have hopen : (start.next ⟨[], [], []⟩ (opening text)).documents.get? ⟨"file:///a.ksp"⟩ =
        some ⟨.ofString text, .detect "ksp" ⟨"file:///a.ksp"⟩, 1⟩ := by
      rw [State.next_of_opened _ start (hopening text)]
      simp [State.withDocuments, Store.get?_insert]
    simp only [answer]
    rw [State.answer_of_open _ hopen rfl, Query.answer_definition _ _ hdeclaration]
    exact Json.noConfusion
  exact ⟨htext, hreturned, hanswer _, hfound, hsent [outline]⟩

end KontaktScript

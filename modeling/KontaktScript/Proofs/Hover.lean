import KontaktScript.Proofs.Encoding
import KontaktScript.Proofs.Identifier
import KontaktScript.Proofs.Reply

/-!
# What a hover explains

A hover comes with the range of what it explains.  On an open script this is
the identifier that was looked up and nothing else, and the position asked for
lies in the range or at one of its ends.
-/

namespace KontaktScript

open Text

/-- The characters of identifiers are letters, digits, the underscore and the six
sigils. -/
theorem Token.isIdentifierChar_iff {c : Char} :
    isIdentifierChar c = true ↔
      c.isAlphanum = true ∨ c = '_' ∨ c ∈ ['$', '~', '@', '%', '?', '!'] := by
  have hsigil : (VarType.ofSigil? c).isSome = true ↔ c ∈ ['$', '~', '@', '%', '?', '!'] := by
    constructor
    · intro hsome
      obtain ⟨type, htype⟩ := Option.isSome_iff_exists.mp hsome
      rw [← VarType.ofSigil?_eq_some_iff.mp htype]
      cases type <;> decide
    · intro hc
      have hsigils : ['$', '~', '@', '%', '?', '!'].all
          (fun d => (VarType.ofSigil? d).isSome) = true := by decide
      exact List.all_eq_true.mp hsigils c hc
  rw [isIdentifierChar, Bool.or_eq_true, hsigil, isNameChar, Bool.or_eq_true, beq_iff_eq,
    or_assoc]

theorem State.answer_of_open {state : State} (tables : Tables) {query : Query}
    {source : OpenDocument} (hopen : state.documents.get? query.uri = some source)
    (hksp : source.language = .ksp) :
    state.answer tables query = query.answer tables state.settings source.document := by
  rw [answer, hopen]
  simp only [hksp]

theorem exists_hover_of_answer_ne_null {tables : Tables} {settings : Settings} {doc : Document}
    {uri : Uri} {position : Position}
    (hanswer : (Query.hover uri position).answer tables settings doc ≠ .null) :
    ∃ hover, Hover.at? tables settings doc position = some hover ∧
      (Query.hover uri position).answer tables settings doc = hover.toJson := by
  rw [Query.answer] at hanswer ⊢
  cases hhover : Hover.at? tables settings doc position with
  | none =>
      rw [hhover] at hanswer
      exact absurd rfl hanswer
  | some hover => exact ⟨hover, rfl, rfl⟩

/-- The range of a hover is that of the identifier that was looked up. -/
theorem Hover.exists_token_of_at? {tables : Tables} {settings : Settings} {doc : Document}
    {position : Position} {hover : Hover}
    (hhover : Hover.at? tables settings doc position = some hover) :
    ∃ token, identifierAt? doc position = some token ∧
      contents? tables settings doc token.text = some hover.contents ∧
      hover.range = doc.rangeOf token.span := by
  obtain ⟨token, htoken, hrest⟩ := Option.bind_eq_some_iff.mp hhover
  obtain ⟨contents, hcontents, hrange⟩ := Option.bind_eq_some_iff.mp hrest
  cases hrange
  exact ⟨token, htoken, hcontents, rfl⟩

/-- A hover over an open script marks the identifier that was looked up, without
quotes, on the line asked about.  The column asked about, or the line's end for
a column past it, lies from the start of the range to its end. -/
theorem hover_marks_identifier (tables : Tables) (state : State) {uri : Uri}
    {source : OpenDocument} (hopen : state.documents.get? uri = some source)
    (hksp : source.language = .ksp) (hnarrow : source.document.IsNarrow) (position : Position)
    (hanswer : state.answer tables (.hover uri position) ≠ .null) :
    let column := min position.character.toNat
      (Utf16.length (source.document.lineText position.line.toNat))
    ∃ (hover : Hover) (token : Token) (before behind : List Char),
      state.answer tables (.hover uri position) = hover.toJson ∧
      (state.answer tables (.hover uri position)).IsHover hover ∧
      identifierAt? source.document position = some token ∧
      Hover.contents? tables state.settings source.document token.text = some hover.contents ∧
      hover.range.start.line = position.line ∧ hover.range.stop.line = position.line ∧
      hover.range.start.character.toNat ≤ column ∧
      column ≤ hover.range.stop.character.toNat ∧
      hover.range.start.character < hover.range.stop.character ∧
      source.document.Marks hover.range before token.text.toList behind ∧
      ∀ c ∈ token.text.toList,
        c.isAlphanum = true ∨ c = '_' ∨ c ∈ ['$', '~', '@', '%', '?', '!'] := by
  intro column
  rw [State.answer_of_open tables hopen hksp] at hanswer ⊢
  obtain ⟨hover, hhover, hjson⟩ := exists_hover_of_answer_ne_null hanswer
  obtain ⟨token, htoken, hcontents, hrange⟩ := Hover.exists_token_of_at? hhover
  obtain ⟨before, word, behind, hcut, hline, hcovers, rfl⟩ :=
    (identifierAt?_eq_some_iff hnarrow).mp htoken
  have hmarks : source.document.Marks hover.range before word behind := by
    rw [hrange]
    exact Document.marks_rangeOf hnarrow hline
  have hword : (Token.ofWord position.line before word).text.toList = word :=
    String.toList_ofList
  obtain ⟨hfrom, hto⟩ : Utf16.length before ≤ column ∧ column ≤ Utf16.length (before ++ word) := by
    simp only [column, Document.lineText_of_line? hline]
    exact hcovers
  refine ⟨hover, Token.ofWord position.line before word, before, behind, hjson,
    hjson ▸ hover.isHover_toJson, htoken, hcontents, ?_, ?_, ?_, ?_, ?_, ?_, ?_⟩
  · rw [hrange]
    rfl
  · rw [hrange]
    rfl
  · rwa [hmarks.start_eq]
  · rwa [hmarks.stop_eq]
  · have hlength := List.length_pos_iff.mpr hcut.nonempty
    have hunits := Utf16.length_le_utf16Length word
    rw [UInt32.lt_iff_toNat_lt, hmarks.start_eq, hmarks.stop_eq, Utf16.length_append]
    omega
  · rwa [hword]
  · rw [hword]
    intro c hc
    exact Token.isIdentifierChar_iff.mp (hcut.isIdentifierChar c hc)

/-- The line ends with a name behind a character of two units, and the column
asked about lies far past it. -/
theorem hover_marks_identifier_past_line_end :
    let source : OpenDocument := ⟨.ofString "declare $knob\n\"𝄞\" & knob", .ksp, 1⟩
    let state : State := { State.start none false with
      documents := Store.empty.insert ⟨"file:///a.ksp"⟩ source }
    let query := Query.hover ⟨"file:///a.ksp"⟩ ⟨1, 900⟩
    source.document.IsNarrow ∧ state.answer ⟨[], [], []⟩ query ≠ .null ∧
      ∃ (hover : Hover) (token : Token) (before behind : List Char),
        state.answer ⟨[], [], []⟩ query = hover.toJson ∧
        (state.answer ⟨[], [], []⟩ query).IsHover hover ∧
        identifierAt? source.document ⟨1, 900⟩ = some token ∧ token.text = "knob" ∧
        hover.range.start.line = 1 ∧ hover.range.start.character.toNat ≤ 11 ∧
        11 ≤ hover.range.stop.character.toNat ∧
        source.document.Marks hover.range before token.text.toList behind := by
  intro source state query
  have hopen : state.documents.get? query.uri = some source := by
    simp [state, query, Query.uri, Store.get?_insert]
  have hnarrow : source.document.IsNarrow := by decide
  have hhover : Hover.at? ⟨[], [], []⟩ state.settings source.document ⟨1, 900⟩ =
      some ⟨[.code "declare $knob", .text "Variable (Integer)"], ⟨⟨1, 7⟩, ⟨1, 11⟩⟩⟩ := by
    decide +kernel
  have hanswer : state.answer ⟨[], [], []⟩ query ≠ .null := by
    rw [State.answer_of_open _ hopen rfl, Query.answer, hhover]
    intro hnull
    cases hnull
  obtain ⟨hover, token, before, behind, hjson, hparts, htoken, -, hline, -, hstart, hstop, -,
    hmarks, -⟩ := hover_marks_identifier ⟨[], [], []⟩ state hopen rfl hnarrow ⟨1, 900⟩ hanswer
  have hcolumn : min (900 : UInt32).toNat
      (Utf16.length (source.document.lineText (1 : UInt32).toNat)) = 11 := by decide
  have htext : (identifierAt? source.document ⟨1, 900⟩).map Token.text = some "knob" := by decide
  rw [htoken] at htext
  exact ⟨hnarrow, hanswer, hover, token, before, behind, hjson, hparts, htoken,
    Option.some.inj htext, hline, hstart.trans_eq hcolumn, hcolumn.symm.trans_le hstop, hmarks⟩

end KontaktScript

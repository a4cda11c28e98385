import KontaktScript.Proofs.Form
import KontaktScript.Proofs.Hover

/-!
# Jumping to a definition twice

Where a definition is found, the same definition is found again from every
position of the name there.  The first time the name is read by the forms of
declarations, the second time as the identifier at a cursor, so the two readings
have to agree on it; and of several declarations that the identifier may refer
to, the one that was found first has to be the one that its written name refers
to.
-/

namespace KontaktScript

open Text

theorem resolve?_eq (found : List Declaration) (identifier : String) :
    resolve? found identifier =
      match splitSigil? identifier with
      | some (type, name) => found.find? fun d => d.kind = .var type && d.name = name
      | none =>
          (found.find? fun d => !d.isVariable && d.name = identifier).or
            (found.find? fun d => d.isVariable && d.name = identifier) := by
  rw [resolve?, resolveIndex?]
  cases splitSigil? identifier with
  | some split => exact List.find?_eq_bind_findIdx?_getElem?.symm
  | none =>
      simp only [List.find?_eq_bind_findIdx?_getElem?]
      cases hroutine : found.findIdx? fun d => !d.isVariable && d.name = identifier with
      | none => rfl
      | some i =>
          have hi := (List.findIdx?_eq_some_iff_getElem.mp hroutine).1
          simp [List.getElem?_eq_getElem hi]

theorem mem_of_resolve? {found : List Declaration} {identifier : String}
    {declaration : Declaration} (hfound : resolve? found identifier = some declaration) :
    declaration ∈ found := by
  obtain ⟨i, -, hi⟩ := Option.bind_eq_some_iff.mp hfound
  exact List.mem_of_getElem? hi

namespace Declaration

theorem splitSigil?_written {declaration : Declaration} {type : VarType}
    (hkind : declaration.kind = .var type)
    (hname : declaration.name = declaration.attributes.name) :
    splitSigil? declaration.written = some (type, declaration.name) := by
  have hwritten : declaration.written.toList = type.sigil :: declaration.name.toList := by
    rw [kind] at hkind
    rw [written, Attributes.written, hkind, hname]
    exact String.toList_ofList
  rw [splitSigil?, hwritten]
  simp

theorem written_of_not_isVariable {declaration : Declaration}
    (hkind : declaration.isVariable = false)
    (hname : declaration.name = declaration.attributes.name) :
    declaration.written = declaration.name := by
  rw [written, Attributes.written, hname]
  rw [isVariable, kind] at hkind
  cases hcase : declaration.attributes.kind with
  | var type =>
      rw [hcase] at hkind
      cases hkind
  | _ => rfl

theorem exists_kind_of_isVariable {declaration : Declaration}
    (hkind : declaration.isVariable = true) : ∃ type, declaration.kind = .var type := by
  rw [isVariable] at hkind
  cases hcase : declaration.kind with
  | var type => exact ⟨type, rfl⟩
  | _ =>
      rw [hcase] at hkind
      cases hkind

/-- The written name of the declaration that was found refers to it, also if
the identifier was a bare name of a variable. -/
theorem resolve?_written {found : List Declaration} {identifier : String}
    {declaration : Declaration} (hname : declaration.name = declaration.attributes.name)
    (hfound : resolve? found identifier = some declaration) :
    resolve? found declaration.written = some declaration := by
  rw [resolve?_eq] at hfound
  cases hsplit : splitSigil? identifier with
  | some split =>
      rcases split with ⟨type, name⟩
      rw [hsplit] at hfound
      obtain ⟨hkind, rfl⟩ : declaration.kind = .var type ∧ declaration.name = name := by
        simpa using List.find?_some hfound
      rw [resolve?_eq, splitSigil?_written hkind hname]
      exact hfound
  | none =>
      rw [hsplit] at hfound
      rcases Option.or_eq_some_iff.mp hfound with hroutine | ⟨-, hvariable⟩
      · -- A callback or a function is written as the identifier that found it.
        obtain ⟨hkind, rfl⟩ : declaration.isVariable = false ∧ declaration.name = identifier := by
          simpa using List.find?_some hroutine
        rw [written_of_not_isVariable hkind hname, resolve?_eq, hsplit]
        exact hfound
      · -- No variable of that name comes before, so none of its type does.
        obtain ⟨hfits, before, behind, rfl, hbefore⟩ :=
          List.find?_eq_some_iff_append.mp hvariable
        obtain ⟨hkind, rfl⟩ : declaration.isVariable = true ∧ declaration.name = identifier := by
          simpa using hfits
        obtain ⟨type, htype⟩ := exists_kind_of_isVariable hkind
        rw [resolve?_eq, splitSigil?_written htype hname]
        refine List.find?_eq_some_iff_append.mpr ⟨?_, before, behind, rfl, ?_⟩
        · simp [htype]
        · intro other hother
          have hunfit := hbefore other hother
          by_cases hcase : other.kind = .var type
          · have hvar : other.isVariable = true := by
              rw [isVariable, hcase]
              rfl
            simpa [hcase, hvar] using hunfit
          · simp [hcase]

theorem name_eq_of_mem {σ : Type} [LineSource σ] {source : σ} {stop : Option Nat}
    {declaration : Declaration} (hmem : declaration ∈ declarations source stop) :
    declaration.name = declaration.attributes.name := by
  rw [declarations_eq_filterMap] at hmem
  obtain ⟨i, -, hplaced⟩ := List.mem_filterMap.mp hmem
  obtain ⟨found, hfound, rfl⟩ := Option.map_eq_some_iff.mp hplaced
  rcases alone_cases hfound with ⟨form, -, rfl⟩ | ⟨form, -, rfl⟩ | ⟨form, -, rfl⟩ <;> rfl

/-- A declaration whose name stands out is located where the name stands on its
line. -/
theorem exists_standsIn_of_mem {doc : Document} (hcount : doc.lineCount ≤ UInt32.size)
    {declaration : Declaration} (hmem : declaration ∈ declarations doc none)
    (hout : declaration.StandsOut) :
    ∃ line before behind, doc.line? declaration.location.line.toNat = some line ∧
      declaration.StandsIn line before behind := by
  rw [declarations_eq_filterMap] at hmem
  obtain ⟨i, hrange, hplaced⟩ := List.mem_filterMap.mp hmem
  have hi : i < doc.lineCount := List.mem_range.mp hrange
  have hnumber := toNat_line_of_placedAt doc hplaced (Nat.lt_of_lt_of_le hi hcount)
  obtain ⟨found, hfound, rfl⟩ := Option.map_eq_some_iff.mp hplaced
  obtain ⟨before, behind, hplace⟩ := exists_standsIn_of_alone hfound hout
  refine ⟨doc.lineText i, before, behind, ?_, hplace.line_eq, hplace.column_eq, hplace.isLead,
    hplace.nonempty, hplace.isIdentifierChar⟩
  rw [hnumber]
  exact Document.line?_eq_some_lineText hi

/-- The range of a declared name marks an occurrence of the name at which the
declaration is located. -/
theorem marks_nameSpan_of_column {doc : Document} (hnarrow : doc.IsNarrow)
    {declaration : Declaration} {before behind : List Char}
    (hcolumn : declaration.location.column = before.length.toUInt32)
    (hline : doc.line? declaration.location.line.toNat =
      some (before ++ declaration.written.toList ++ behind)) :
    doc.Marks (doc.rangeOf declaration.nameSpan) before declaration.written.toList behind := by
  have hspan : declaration.nameSpan =
      ⟨⟨declaration.location.line, before.length.toUInt32⟩, ⟨declaration.location.line,
        (before.length + declaration.written.toList.length).toUInt32⟩⟩ := by
    have hstart : declaration.location =
        ⟨declaration.location.line, before.length.toUInt32⟩ := by rw [← hcolumn]
    have hstop : declaration.location.column + declaration.written.length.toUInt32 =
        (before.length + declaration.written.toList.length).toUInt32 := by
      rw [hcolumn, String.length_toList]
      exact (UInt32.ofNat_add _ _).symm
    rw [nameSpan, hstop, ← hstart]
  rw [hspan]
  exact Document.marks_rangeOf hnarrow hline

/-- The range of a declared name marks the name as it is written. -/
theorem StandsIn.marks_nameSpan {doc : Document} (hnarrow : doc.IsNarrow)
    {declaration : Declaration} {line before behind : List Char}
    (hplace : declaration.StandsIn line before behind)
    (hline : doc.line? declaration.location.line.toNat = some line) :
    doc.Marks (doc.rangeOf declaration.nameSpan) before declaration.written.toList behind := by
  apply marks_nameSpan_of_column hnarrow hplace.column_eq
  rw [hline, hplace.line_eq]

/-- A name between boundaries, no quote behind it, is read as an identifier. -/
theorem StandsIn.isIdentifierCut {declaration : Declaration} {line before behind : List Char}
    (hplace : declaration.StandsIn line before behind)
    (hbefore : before.getLast?.any Word.isBoundary = true)
    (hbehind : ∀ c ∈ behind.head?, Word.isBoundary c = true ∧ c ≠ '"') :
    IsIdentifierCut before declaration.written.toList behind where
  inner c hc := isInner_of_isIdentifierChar (hplace.isIdentifierChar c hc)
  before_closed := by
    cases hlast : before.getLast? with
    | none => rfl
    | some c =>
        rw [hlast, Option.any_some] at hbefore
        rw [Option.any_some, Word.isInner, hbefore, Bool.not_true]
  behind_closed := by
    cases hhead : behind.head? with
    | none => rfl
    | some c =>
        rw [Option.any_some, Word.isInner, (hbehind c hhead).1, Bool.not_true]
  nonempty := hplace.nonempty
  isIdentifierChar := hplace.isIdentifierChar
  before_unquoted := by
    intro hlast
    have hquote := hplace.isLead '"' (List.mem_of_getLast? hlast)
    exact absurd hquote (by decide)
  behind_unquoted := by
    intro hhead
    exact (hbehind '"' hhead).2 rfl

end Declaration

/-- Positions in the order in which they come in a text. -/
instance : LE Position where
  le left right :=
    left.line < right.line ∨ left.line = right.line ∧ left.character ≤ right.character

instance (left right : Position) : Decidable (left ≤ right) :=
  inferInstanceAs (Decidable (_ ∨ _))

theorem Position.line_eq_of_le_of_le {start stop position : Position}
    (hline : stop.line = start.line) (hfrom : start ≤ position) (hto : position ≤ stop) :
    position.line = start.line ∧ start.character ≤ position.character ∧
      position.character ≤ stop.character := by
  rcases hfrom with hbelow | ⟨hstart, hfrom⟩
  · rcases hto with habove | ⟨hstop, -⟩
    · rw [hline] at habove
      exact absurd (UInt32.lt_trans hbelow habove) (UInt32.lt_irrefl _)
    · rw [hstop, hline] at hbelow
      exact absurd hbelow (UInt32.lt_irrefl _)
  · rcases hto with habove | ⟨-, hto⟩
    · rw [hline, hstart] at habove
      exact absurd habove (UInt32.lt_irrefl _)
    · exact ⟨hstart.symm, hfrom, hto⟩

/-- At all positions of a range that marks an identifier stands that
identifier. -/
theorem IsIdentifierCut.identifierAt?_of_marks {doc : Document} (hnarrow : doc.IsNarrow)
    {range : Range} {before word behind : List Char} (hcut : IsIdentifierCut before word behind)
    (hmarks : doc.Marks range before word behind) {position : Position}
    (hfrom : range.start ≤ position) (hto : position ≤ range.stop) :
    identifierAt? doc position = some (Token.ofWord position.line before word) := by
  obtain ⟨hline, hstart, hstop⟩ :=
    Position.line_eq_of_le_of_le hmarks.stop_line hfrom hto
  rw [UInt32.le_iff_toNat_le] at hstart hstop
  rw [hmarks.start_eq] at hstart
  rw [hmarks.stop_eq] at hstop
  refine (identifierAt?_eq_some_iff hnarrow).mpr
    ⟨before, word, behind, hcut, ?_, ⟨?_, ?_⟩, rfl⟩
  · rw [hline]
    exact hmarks.line_eq
  · simp only [Utf16.length_append]
    omega
  · omega

theorem Query.answer_definition (tables : Tables) (settings : Settings) {doc : Document}
    {uri : Uri} {position : Position} {declaration : Declaration}
    (hdeclaration : declarationAt? doc position = some declaration) :
    (Query.definition uri position).answer tables settings doc =
      (Location.mk uri (doc.rangeOf declaration.nameSpan)).toJson := by
  rw [Query.answer, Location.ofDefinition?, hdeclaration]
  rfl

/-- A definition that was found in an open script is found again from every
position of its name, the ends included.  The name must not be taken for a part
of its keyword, and it must stand between boundaries as identifiers do. -/
theorem definition_found_again (tables : Tables) (state : State) {uri : Uri}
    {source : OpenDocument} (hopen : state.documents.get? uri = some source)
    (hksp : source.language = .ksp) (hcount : source.document.lineCount ≤ UInt32.size)
    (hnarrow : source.document.IsNarrow) {position : Position} {declaration : Declaration}
    (hdeclaration : declarationAt? source.document position = some declaration)
    (hout : declaration.isVariable = true ∨
      ¬ declaration.name.toList <:+: declaration.keyword.toList) :
    let location : Location := ⟨uri, source.document.rangeOf declaration.nameSpan⟩
    state.answer tables (.definition uri position) = location.toJson ∧
      location.toJson.IsLocation location ∧
      ∃ before behind,
        source.document.Marks location.range before declaration.written.toList behind ∧
        (before.getLast?.any Word.isBoundary = true →
          (∀ c ∈ behind.head?, Word.isBoundary c = true ∧ c ≠ '"') →
          ∀ other, location.range.start ≤ other → other ≤ location.range.stop →
            state.answer tables (.definition uri other) = location.toJson) := by
  intro location
  have hanswer : ∀ other, declarationAt? source.document other = some declaration →
      state.answer tables (.definition uri other) = location.toJson := by
    intro other hother
    rw [State.answer_of_open tables hopen hksp]
    exact Query.answer_definition tables state.settings hother
  obtain ⟨token, -, hresolve⟩ := Option.bind_eq_some_iff.mp hdeclaration
  have hmem := mem_of_resolve? hresolve
  obtain ⟨line, before, behind, hline, hplace⟩ :=
    Declaration.exists_standsIn_of_mem hcount hmem hout
  have hmarks := hplace.marks_nameSpan hnarrow hline
  refine ⟨hanswer position hdeclaration, location.isLocation_toJson, before, behind, hmarks, ?_⟩
  intro hbefore hbehind other hfrom hto
  apply hanswer
  have hcut := hplace.isIdentifierCut hbefore hbehind
  have hidentifier := hcut.identifierAt?_of_marks hnarrow hmarks hfrom hto
  have htext : (Token.ofWord other.line before declaration.written.toList).text =
      declaration.written := String.ofList_toList
  rw [declarationAt?, hidentifier, Option.bind_eq_bind, Option.bind_some, htext]
  exact Declaration.resolve?_written (Declaration.name_eq_of_mem hmem) hresolve

/-- A bare name refers to the first of two variables with that name, from whose
place the same variable is found by its written name. -/
theorem definition_found_again_from_bare_name :
    let source : OpenDocument := ⟨.ofString "declare $x[3]\ndeclare ~x\nx := 1", .ksp, 1⟩
    let state : State := { State.start none false with
      documents := Store.empty.insert ⟨"file:///a.ksp"⟩ source }
    let query (position : Position) := Query.definition ⟨"file:///a.ksp"⟩ position
    let location : Location := ⟨⟨"file:///a.ksp"⟩, ⟨⟨0, 8⟩, ⟨0, 10⟩⟩⟩
    source.document.IsNarrow ∧
      state.answer ⟨[], [], []⟩ (query ⟨2, 0⟩) = location.toJson ∧
      location.toJson.IsLocation location ∧
      ∀ other : Position, ⟨0, 8⟩ ≤ other → other ≤ ⟨0, 10⟩ →
        state.answer ⟨[], [], []⟩ (query other) = location.toJson := by
  intro source state query location
  have hopen : state.documents.get? ⟨"file:///a.ksp"⟩ = some source := by
    simp [state, Store.get?_insert]
  have hnarrow : source.document.IsNarrow := by decide +kernel
  let declaration : Declaration :=
    { name := "x"
      container := "Variable (Integer)"
      location := ⟨0, 8⟩
      range := ⟨⟨0, 0⟩, ⟨0, 13⟩⟩
      selection := ⟨⟨0, 8⟩, ⟨0, 13⟩⟩
      attributes :=
        { name := "x"
          kind := .var .integer
          typeName := "Integer"
          description := "Variable (Integer)"
          column := 8 } }
  have hdeclaration : declarationAt? source.document ⟨2, 0⟩ = some declaration := by
    decide +kernel
  have hrange : source.document.rangeOf declaration.nameSpan = ⟨⟨0, 8⟩, ⟨0, 10⟩⟩ := by
    decide +kernel
  have hplace : source.document.Marks ⟨⟨0, 8⟩, ⟨0, 10⟩⟩
      "declare ".toList "$x".toList "[3]".toList :=
    ⟨rfl, by decide +kernel, by decide, by decide⟩
  obtain ⟨hanswer, hparts, before, behind, hmarks, hagain⟩ :=
    definition_found_again ⟨[], [], []⟩ state hopen rfl (by decide +kernel) hnarrow hdeclaration
      (.inl rfl)
  rw [hrange] at hanswer hparts hmarks hagain
  obtain ⟨rfl, -, rfl⟩ := hmarks.unique hplace
  refine ⟨hnarrow, hanswer, hparts, hagain (by decide) ?_⟩
  intro c hc
  cases hc
  decide

end KontaktScript

import KontaktScript.Proofs.Form
import KontaktScript.Proofs.Hover

/-!
# Where the entries of an outline stand

Editors refuse an outline in which a part to select leaves the range of its entry.
The two are found apart: the range starts at the keyword, the part to select where
the name first occurs on the line, be that inside the keyword.  Neither can leave
the line, and no name occurs in the white space before the keyword, so the one part
lies in the other, also when both are counted in UTF-16 units.
-/

namespace KontaktScript

open Text

namespace Text

/-- The first occurrence of a text without white space lies behind the white space
with which a line starts. -/
theorem exists_firstOccurrence?_eq_add {needle line : List Char} (hoccurs : needle <:+: line)
    (hnonempty : needle ≠ []) (hneedle : ∀ c ∈ needle, isBlank c = false) :
    ∃ more, firstOccurrence? needle line = some (margin line + more) := by
  obtain ⟨first, tail, rfl⟩ := List.exists_cons_of_ne_nil hnonempty
  have hfirst : first ∉ line.takeWhile isBlank := by
    intro hmem
    have hblank := List.mem_takeWhile_imp hmem
    rw [hneedle first List.mem_cons_self] at hblank
    cases hblank
  have hskip : firstOccurrence? (first :: tail)
      (line.takeWhile isBlank ++ line.dropWhile isBlank) =
        (firstOccurrence? (first :: tail) (line.dropWhile isBlank)).map (margin line + ·) :=
    firstOccurrence?_append_of_not_mem hfirst
  rw [List.takeWhile_append_dropWhile] at hskip
  have hsome := isSome_firstOccurrence?_of_isInfix hoccurs
  rw [hskip, Option.isSome_map] at hsome
  obtain ⟨more, hmore⟩ := Option.isSome_iff_exists.mp hsome
  rw [hmore] at hskip
  exact ⟨more, hskip⟩

end Text

/-- A text that stands on a line, not empty and without white space. -/
structure IsWordOf (word line : List Char) : Prop where
  isInfix : word <:+: line
  nonempty : word ≠ []
  not_isBlank : ∀ c ∈ word, isBlank c = false

theorem RoutineCut.isWordOf {keyword : String} {line indent gap name rest : List Char}
    (hcut : RoutineCut keyword line indent gap name rest) : IsWordOf name line := by
  refine ⟨⟨indent ++ keyword.toList ++ gap, rest, ?_⟩, hcut.isName.nonempty, ?_⟩
  · rw [hcut.line_eq, List.append_assoc _ name rest]
  · exact fun c hc => not_isBlank_of_isNameChar (hcut.isName.isNameChar c hc)

theorem VariableCut.isWordOf {line indent gap qualifier space name rest : List Char}
    {type : VarType} (hcut : VariableCut line indent gap qualifier space type name rest) :
    IsWordOf (type.sigil :: name) line := by
  refine ⟨⟨_, rest, hcut.line_eq_append.symm⟩, List.cons_ne_nil _ _, ?_⟩
  exact List.forall_mem_cons.mpr ⟨Word.not_isBlank_of_isInner type.isInner_sigil,
    fun c hc => not_isBlank_of_isNameChar (hcut.isName.isNameChar c hc)⟩

namespace Declaration

variable {number : UInt32} {line : Line} {declaration : Declaration}

/-- A declared name stands on its line as it is written. -/
theorem isWordOf_of_alone (hfound : alone number line = some declaration) :
    IsWordOf declaration.written.toList line := by
  rcases alone_cases hfound with ⟨form, hform, rfl⟩ | ⟨form, hform, rfl⟩ | ⟨form, hform, rfl⟩
  · have hwritten : form.attributes.written.toList = form.type.sigil :: form.name.toList :=
      String.toList_ofList
    obtain ⟨indent, gap, qualifier, space, rest, hcut, -⟩ := exists_variableCut hform
    rw [written_onLine, hwritten]
    exact hcut.isWordOf
  · obtain ⟨indent, gap, rest, hcut, -⟩ := CallbackForm.read?_eq_some_iff.mp hform
    rw [written_onLine, Attributes.written, kind_callback, name_callback]
    exact hcut.isWordOf
  · obtain ⟨indent, gap, rest, hcut⟩ := FunctionForm.read?_eq_some_iff.mp hform
    exact hcut.isWordOf

/-- The range of a declaration starts at the keyword of its line, the part to select
at an occurrence of its name that is no further left, and both go to the end. -/
structure Spans (declaration : Declaration) (number : UInt32) (line before behind : List Char) :
    Prop where
  range_eq : declaration.range =
    ⟨⟨number, (margin line).toUInt32⟩, ⟨number, line.length.toUInt32⟩⟩
  selection_eq : declaration.selection =
    ⟨⟨number, before.length.toUInt32⟩, ⟨number, line.length.toUInt32⟩⟩
  line_eq : line = before ++ (declaration.written.toList ++ behind)
  nonempty : declaration.written.toList ≠ []
  column_le : margin line ≤ before.length

theorem exists_spans_of_alone (hfound : alone number line = some declaration) :
    ∃ before behind, declaration.Spans number line before behind := by
  obtain ⟨hoccurs, hnonempty, hword⟩ := isWordOf_of_alone hfound
  obtain ⟨attributes, rfl⟩ := exists_onLine_of_ofLine hfound
  rw [written_onLine] at hoccurs hnonempty hword
  obtain ⟨more, hoffset⟩ := exists_firstOccurrence?_eq_add hoccurs hnonempty hword
  obtain ⟨before, behind, hline, hlength⟩ := exists_append_of_firstOccurrence? hoffset
  refine ⟨before, behind, rfl, ?_, ?_, hnonempty, ?_⟩
  · rw [onLine, hoffset, hlength]
    rfl
  · rwa [written_onLine, ← List.append_assoc]
  · rw [hlength]
    exact Nat.le_add_right _ _

end Declaration

namespace Document

variable {doc : Document}

/-- A range to the end of a line marks all that follows its start. -/
theorem marks_rangeOf_toEnd (hnarrow : doc.IsNarrow) {number : UInt32}
    {line before part : List Char} (hline : doc.line? number.toNat = some line)
    (hsplit : line = before ++ part) :
    doc.Marks (doc.rangeOf ⟨⟨number, before.length.toUInt32⟩, ⟨number, line.length.toUInt32⟩⟩)
      before part [] := by
  rw [hsplit, List.length_append]
  apply marks_rangeOf hnarrow
  rw [hline, hsplit, List.append_nil]

end Document

namespace OutlineEntry

/-- An entry stands on one line of a document.  Its range holds all of the line
but the white space at its start.  The part to select lies in the range, starts
with the entry's name and goes to the same end. -/
structure IsPlaced (doc : Document) (entry : OutlineEntry) : Prop where
  marks_range : ∃ indent text, doc.Marks entry.range indent text [] ∧
    (∀ c ∈ indent, isBlank c = true) ∧ ∀ c ∈ text.head?, isBlank c = false
  marks_selection : ∃ before behind,
    doc.Marks entry.selection before (entry.name.toList ++ behind) [] ∧ entry.name ≠ ""
  line_eq : entry.selection.start.line = entry.range.start.line
  start_le : entry.range.start.character ≤ entry.selection.start.character
  start_lt : entry.selection.start.character < entry.selection.stop.character
  stop_eq : entry.selection.stop = entry.range.stop

theorem isPlaced_of_spans {doc : Document} (hnarrow : doc.IsNarrow) {number : UInt32}
    {line before behind : List Char} (hline : doc.line? number.toNat = some line)
    {declaration : Declaration} (hspans : declaration.Spans number line before behind) :
    (ofDeclaration doc declaration).IsPlaced doc := by
  have hindent : line = line.takeWhile isBlank ++ line.dropWhile isBlank :=
    List.takeWhile_append_dropWhile.symm
  have hrange := Document.marks_rangeOf_toEnd hnarrow hline hindent
  have hselection := Document.marks_rangeOf_toEnd hnarrow hline hspans.line_eq
  rw [← margin, ← hspans.range_eq] at hrange
  rw [← hspans.selection_eq] at hselection
  have hprior : line.takeWhile isBlank <+: before :=
    List.prefix_of_prefix_length_le (List.takeWhile_prefix isBlank)
      ⟨_, hspans.line_eq.symm⟩ hspans.column_le
  have hname := Utf16.length_le_utf16Length declaration.written.toList
  have hpos := List.length_pos_iff.mpr hspans.nonempty
  refine ⟨⟨_, _, hrange, ?_, ?_⟩, ⟨before, behind, hselection, ?_⟩, ?_, ?_, ?_, ?_⟩
  · intro c hc
    exact List.mem_takeWhile_imp hc
  · exact not_isBlank_head?_trimLeft line
  · intro hempty
    exact hspans.nonempty (congrArg String.toList hempty)
  · simp only [ofDeclaration, Document.rangeOf, Document.positionOf, hspans.range_eq,
      hspans.selection_eq]
  · obtain ⟨more, rfl⟩ := hprior
    rw [UInt32.le_iff_toNat_le]
    simp only [ofDeclaration, hrange.start_eq, hselection.start_eq, Utf16.length_append]
    omega
  · rw [UInt32.lt_iff_toNat_lt]
    simp only [ofDeclaration, hselection.start_eq, hselection.stop_eq, Utf16.length_append]
    omega
  · simp only [ofDeclaration, Document.rangeOf, hspans.range_eq, hspans.selection_eq]

end OutlineEntry

/-- What a line declares in its place spans the line as it does by itself. -/
theorem exists_spans_of_placedAt {σ : Type} [LineSource σ] {source : σ} {i : Nat}
    {declaration : Declaration} (hplaced : placedAt source i = some declaration) :
    ∃ before behind,
      declaration.Spans i.toUInt32 (LineSource.lineText source i) before behind := by
  obtain ⟨found, hfound, rfl⟩ := Option.map_eq_some_iff.mp hplaced
  obtain ⟨before, behind, hspans⟩ := Declaration.exists_spans_of_alone hfound
  exact ⟨before, behind, hspans.range_eq, hspans.selection_eq, hspans.line_eq, hspans.nonempty,
    hspans.column_le⟩

section Outline

variable {doc : Document}

theorem mem_outline_iff {entry : OutlineEntry} :
    entry ∈ outline doc ↔ ∃ i < doc.lineCount, ∃ declaration,
      placedAt doc i = some declaration ∧ OutlineEntry.ofDeclaration doc declaration = entry := by
  rw [outline, declarations_eq_filterMap, List.mem_map]
  constructor
  · rintro ⟨declaration, hmem, hentry⟩
    obtain ⟨i, hi, hplaced⟩ := List.mem_filterMap.mp hmem
    exact ⟨i, List.mem_range.mp hi, declaration, hplaced, hentry⟩
  · rintro ⟨i, hi, declaration, hplaced, hentry⟩
    exact ⟨declaration, List.mem_filterMap.mpr ⟨i, List.mem_range.mpr hi, hplaced⟩, hentry⟩

/-- The entry of a line bears the line's number. -/
theorem toNat_line_ofDeclaration (hcount : doc.lineCount ≤ UInt32.size) {i : Nat}
    (hi : i < doc.lineCount) {declaration : Declaration}
    (hplaced : placedAt doc i = some declaration) :
    (OutlineEntry.ofDeclaration doc declaration).range.start.line.toNat = i := by
  obtain ⟨before, behind, hspans⟩ := exists_spans_of_placedAt hplaced
  have hline : (OutlineEntry.ofDeclaration doc declaration).range.start.line = i.toUInt32 :=
    congrArg (fun span => span.start.line) hspans.range_eq
  rw [hline]
  exact Nat.mod_eq_of_lt (Nat.lt_of_lt_of_le hi hcount)

theorem pairwise_line_outline (hcount : doc.lineCount ≤ UInt32.size) :
    (outline doc).Pairwise fun upper lower =>
      upper.range.start.line < lower.range.start.line := by
  rw [outline, List.pairwise_map, declarations_eq_filterMap, List.pairwise_filterMap]
  apply List.pairwise_lt_range.imp_of_mem
  intro i j hi hj hlt upper hupper lower hlower
  rw [UInt32.lt_iff_toNat_lt, toNat_line_ofDeclaration hcount (List.mem_range.mp hi) hupper,
    toNat_line_ofDeclaration hcount (List.mem_range.mp hj) hlower]
  exact hlt

theorem isPlaced_of_mem_outline (hcount : doc.lineCount ≤ UInt32.size) (hnarrow : doc.IsNarrow)
    {entry : OutlineEntry} (hmem : entry ∈ outline doc) : entry.IsPlaced doc := by
  obtain ⟨i, hi, declaration, hplaced, rfl⟩ := mem_outline_iff.mp hmem
  obtain ⟨before, behind, hspans⟩ := exists_spans_of_placedAt hplaced
  have hnumber : i.toUInt32.toNat = i := Nat.mod_eq_of_lt (Nat.lt_of_lt_of_le hi hcount)
  have hline : doc.line? i.toUInt32.toNat = some (doc.lineText i) := by
    rw [hnumber]
    exact Document.line?_eq_some_lineText hi
  exact OutlineEntry.isPlaced_of_spans hnarrow hline hspans

theorem exists_mem_outline_iff (hcount : doc.lineCount ≤ UInt32.size) {i : Nat}
    (hi : i < doc.lineCount) :
    (∃ entry ∈ outline doc, entry.range.start.line.toNat = i) ↔ HasForm (doc.lineText i) := by
  have hsome : HasForm (doc.lineText i) ↔ (placedAt doc i).isSome = true := by
    rw [placedAt, Option.isSome_map]
    exact (Declaration.isSome_alone_iff i.toUInt32 _).symm
  rw [hsome, Option.isSome_iff_exists]
  constructor
  · rintro ⟨entry, hmem, hline⟩
    obtain ⟨j, hj, declaration, hplaced, rfl⟩ := mem_outline_iff.mp hmem
    rw [toNat_line_ofDeclaration hcount hj hplaced] at hline
    subst hline
    exact ⟨declaration, hplaced⟩
  · rintro ⟨declaration, hplaced⟩
    exact ⟨_, mem_outline_iff.mpr ⟨i, hi, declaration, hplaced, rfl⟩,
      toNat_line_ofDeclaration hcount hi hplaced⟩

end Outline

/-- The outline of an open script has an entry for each line that declares
something, in the order of the lines.  The range of each entry holds its line but
for the white space at the start, and the part to select lies in the range and
starts with the name. -/
theorem outline_entries_nest (tables : Tables) (state : State) {uri : Uri}
    {source : OpenDocument} (hopen : state.documents.get? uri = some source)
    (hksp : source.language = .ksp) (hcount : source.document.lineCount ≤ UInt32.size)
    (hnarrow : source.document.IsNarrow) :
    let entries := outline source.document
    state.answer tables (.outline uri) = .array (entries.map OutlineEntry.toJson) ∧
      List.Forall₂ Json.IsOutlineEntry (entries.map OutlineEntry.toJson) entries ∧
      entries.Pairwise (fun upper lower => upper.range.start.line < lower.range.start.line) ∧
      (∀ i < source.document.lineCount,
        (∃ entry ∈ entries, entry.range.start.line.toNat = i) ↔
          HasForm (source.document.lineText i)) ∧
      ∀ entry ∈ entries, entry.IsPlaced source.document := by
  intro entries
  refine ⟨?_, forall₂_map_self OutlineEntry.isOutlineEntry_toJson entries,
    pairwise_line_outline hcount, ?_, ?_⟩
  · rw [State.answer_of_open tables hopen hksp]
    rfl
  · intro i hi
    exact exists_mem_outline_iff hcount hi
  · intro entry hentry
    exact isPlaced_of_mem_outline hcount hnarrow hentry

/-- A name that first occurs in its keyword, behind white space, and a character of two
units on the line. -/
theorem outline_entries_nest_in_keyword :
    let source : OpenDocument := ⟨.ofString "\u3000on n(𝄞)\n\ndeclare $x", .ksp, 1⟩
    let state : State := { State.start none false with
      documents := Store.empty.insert ⟨"file:///a.ksp"⟩ source }
    let callback : OutlineEntry :=
      ⟨"n", "Callback", .routine, ⟨⟨0, 1⟩, ⟨0, 9⟩⟩, ⟨⟨0, 2⟩, ⟨0, 9⟩⟩⟩
    let declared : OutlineEntry :=
      ⟨"$x", "Variable (Integer)", .var, ⟨⟨2, 0⟩, ⟨2, 10⟩⟩, ⟨⟨2, 8⟩, ⟨2, 10⟩⟩⟩
    source.document.IsNarrow ∧
      state.answer ⟨[], [], []⟩ (.outline ⟨"file:///a.ksp"⟩) =
        .array [callback.toJson, declared.toJson] ∧
      callback.toJson.IsOutlineEntry callback ∧ declared.toJson.IsOutlineEntry declared ∧
      callback.IsPlaced source.document ∧ declared.IsPlaced source.document := by
  intro source state callback declared
  have hopen : state.documents.get? ⟨"file:///a.ksp"⟩ = some source := by
    simp [state, Store.get?_insert]
  have hnarrow : source.document.IsNarrow := by decide +kernel
  have hentries : outline source.document = [callback, declared] := by decide +kernel
  obtain ⟨hanswer, hparts, -, -, hplaced⟩ :=
    outline_entries_nest ⟨[], [], []⟩ state hopen rfl (by decide +kernel) hnarrow
  rw [hentries] at hanswer hparts hplaced
  obtain ⟨hcallback, hothers⟩ := List.forall₂_cons.mp hparts
  obtain ⟨hdeclared, -⟩ := List.forall₂_cons.mp hothers
  exact ⟨hnarrow, hanswer, hcallback, hdeclared, hplaced callback (by simp),
    hplaced declared (by simp)⟩

end KontaktScript

import KontaktScript.Proofs.Capture
import KontaktScript.Proofs.Occurrence
import KontaktScript.Proofs.Scan

/-!
# Where a declared name stands on its line

A declaration is located where its written name first occurs on the line.  What
the forms allow before the name is white space, keywords and qualifiers, so a
variable, whose sigil occurs in none of these, is always found in its place.  A
callback or a function is found there unless its name is a part of the keyword
that introduces it.
-/

namespace KontaktScript

open Text

namespace Text

/-- A prefix ends before a character that it does not hold. -/
theorem prefix_of_prefix_append_cons {needle left right : List Char} {c : Char}
    (hc : c ∉ needle) (hstarts : needle <+: left ++ c :: right) : needle <+: left := by
  have hlonger : left ++ [c] <+: left ++ c :: right := ⟨right, by simp⟩
  rcases List.prefix_or_prefix_of_prefix hstarts hlonger with hshort | hlong
  · rcases List.prefix_concat_iff.mp hshort with rfl | hshort
    · exact absurd (by simp) hc
    · exact hshort
  · exact absurd (hlong.subset (by simp)) hc

end Text

/-- White space and characters of names, which is what stands before a declared
name. -/
def IsLead (lead : List Char) : Prop :=
  ∀ c ∈ lead, isBlank c = true ∨ isNameChar c = true

theorem isLead_append {left right : List Char} :
    IsLead (left ++ right) ↔ IsLead left ∧ IsLead right :=
  List.forall_mem_append

theorem isLead_of_isBlank {lead : List Char} (hlead : ∀ c ∈ lead, isBlank c = true) :
    IsLead lead :=
  fun c hc => .inl (hlead c hc)

theorem isLead_of_isNameChar {lead : List Char} (hlead : ∀ c ∈ lead, isNameChar c = true) :
    IsLead lead :=
  fun c hc => .inr (hlead c hc)

theorem KeywordCut.isLead {keyword : String} (hkeyword : IsName keyword.toList)
    {line indent gap rest : List Char} (hcut : KeywordCut keyword line indent gap rest) :
    IsLead (indent ++ keyword.toList ++ gap) := by
  rw [isLead_append, isLead_append]
  exact ⟨⟨isLead_of_isBlank hcut.isBlank_indent, isLead_of_isNameChar hkeyword.isNameChar⟩,
    isLead_of_isBlank hcut.isBlank_gap⟩

theorem VariableCut.isLead {line indent gap qualifier space name rest : List Char}
    {type : VarType} (hcut : VariableCut line indent gap qualifier space type name rest) :
    IsLead (indent ++ "declare".toList ++ gap ++ qualifier ++ space) := by
  rw [isLead_append, isLead_append]
  exact ⟨⟨hcut.toKeywordCut.isLead isName_declare,
    isLead_of_isNameChar hcut.isQualifier.isNameChar⟩, isLead_of_isBlank hcut.isBlank_space⟩

theorem VariableCut.line_eq_append {line indent gap qualifier space name rest : List Char}
    {type : VarType} (hcut : VariableCut line indent gap qualifier space type name rest) :
    line = indent ++ "declare".toList ++ gap ++ qualifier ++ space ++ (type.sigil :: name) ++
      rest := by
  rw [hcut.line_eq]
  simp only [List.append_assoc]

/-- The written name of a variable first occurs where its form has it. -/
theorem VariableCut.firstOccurrence?_eq {line indent gap qualifier space name rest : List Char}
    {type : VarType} (hcut : VariableCut line indent gap qualifier space type name rest) :
    firstOccurrence? (type.sigil :: name) line =
      some (indent ++ "declare".toList ++ gap ++ qualifier ++ space).length := by
  have hsigil : type.sigil ∉ indent ++ "declare".toList ++ gap ++ qualifier ++ space := by
    intro hmem
    rcases hcut.isLead type.sigil hmem with hblank | hname
    · rw [Word.not_isBlank_of_isInner type.isInner_sigil] at hblank
      cases hblank
    · rw [type.isNameChar_sigil] at hname
      cases hname
  rw [hcut.line_eq_append, List.append_assoc _ (type.sigil :: name) rest,
    firstOccurrence?_append_of_not_mem hsigil, firstOccurrence?_self_append]
  rfl

/-- A bare name first occurs behind the keyword, unless it is a part of it. -/
theorem RoutineCut.firstOccurrence?_eq {keyword : String} {line indent gap name rest : List Char}
    (hcut : RoutineCut keyword line indent gap name rest) (hpart : ¬ name <:+: keyword.toList) :
    firstOccurrence? name line = some (indent ++ keyword.toList ++ gap).length := by
  have hunblank : ∀ c, isBlank c = true → c ∉ name := by
    intro c hblank hmem
    rw [not_isBlank_of_isNameChar (hcut.isName.isNameChar c hmem)] at hblank
    cases hblank
  obtain ⟨first, tail, rfl⟩ := List.exists_cons_of_ne_nil hcut.isName.nonempty
  have hblanks : ∀ blanks : List Char, (∀ c ∈ blanks, isBlank c = true) → first ∉ blanks :=
    fun blanks hblank hmem => hunblank first (hblank first hmem) List.mem_cons_self
  have hkeyword : ∀ left c right, keyword.toList = left ++ c :: right →
      ¬ first :: tail <+: c :: right ++ (gap ++ (first :: tail ++ rest)) := by
    intro left c right hsplit hstarts
    obtain ⟨blank, gap, rfl⟩ := List.exists_cons_of_ne_nil hcut.gap_nonempty
    have hblank := hunblank blank (hcut.isBlank_gap blank List.mem_cons_self)
    have hinside := prefix_of_prefix_append_cons hblank hstarts
    rw [hsplit] at hpart
    exact hpart (hinside.isInfix.trans (List.suffix_append left (c :: right)).isInfix)
  rw [hcut.line_eq]
  simp only [List.append_assoc]
  rw [firstOccurrence?_append_of_not_mem (hblanks indent hcut.isBlank_indent),
    firstOccurrence?_append hkeyword,
    firstOccurrence?_append_of_not_mem (hblanks gap hcut.isBlank_gap),
    firstOccurrence?_self_append]
  simp

namespace Declaration

/-- The keyword that introduces a declaration. -/
def keyword (declaration : Declaration) : String :=
  match declaration.kind with
  | .callback => "on"
  | .function => "function"
  | _ => "declare"

/-- The name of the declaration cannot be taken for a part of its keyword. -/
def StandsOut (declaration : Declaration) : Prop :=
  declaration.isVariable = true ∨ ¬ declaration.name.toList <:+: declaration.keyword.toList

/-- The declaration is located where its written name stands on a line, behind a
lead. -/
structure StandsIn (declaration : Declaration) (line before behind : List Char) : Prop where
  line_eq : line = before ++ declaration.written.toList ++ behind
  column_eq : declaration.location.column = before.length.toUInt32
  isLead : IsLead before
  nonempty : declaration.written.toList ≠ []
  isIdentifierChar : ∀ c ∈ declaration.written.toList, Token.isIdentifierChar c = true

variable {number : UInt32} {line : Line} {start : Nat}

theorem column_onLine {attributes : Attributes} {offset : Nat}
    (hoffset : firstOccurrence? attributes.written.toList line = some offset) :
    (onLine number line start attributes).location.column = offset.toUInt32 := by
  simp only [onLine, hoffset, Option.getD_some]

theorem exists_standsIn_variable {form : VariableForm}
    (hform : VariableForm.read? line = some form) :
    ∃ before behind, (onLine number line start form.attributes).StandsIn line before behind := by
  obtain ⟨indent, gap, qualifier, space, rest, hcut, -⟩ := exists_variableCut hform
  have hwritten : form.attributes.written.toList = form.type.sigil :: form.name.toList :=
    String.toList_ofList
  have hoffset := hcut.firstOccurrence?_eq
  rw [← hwritten] at hoffset
  refine ⟨_, rest, ?_, column_onLine hoffset, hcut.isLead, ?_, ?_⟩
  · rw [written_onLine, hwritten]
    exact hcut.line_eq_append
  · rw [written_onLine, hwritten]
    exact List.cons_ne_nil _ _
  · rw [written_onLine, hwritten, List.forall_mem_cons]
    exact ⟨form.type.isIdentifierChar_sigil, fun c hc =>
      isIdentifierChar_of_isNameChar (hcut.isName.isNameChar c hc)⟩

/-- A symbol without a sigil, whose name follows a keyword. -/
theorem exists_standsIn_name {keyword : String} {attributes : Attributes}
    {indent gap rest : List Char} (hkind : attributes.kind.sigil? = none)
    (hkeyword : IsName keyword.toList)
    (hcut : RoutineCut keyword line indent gap attributes.name.toList rest)
    (hpart : ¬ attributes.name.toList <:+: keyword.toList) :
    ∃ before behind, (onLine number line start attributes).StandsIn line before behind := by
  have hwritten : attributes.written = attributes.name := by
    rw [Attributes.written, hkind]
  have hoffset := hcut.firstOccurrence?_eq hpart
  rw [← hwritten] at hoffset
  refine ⟨indent ++ keyword.toList ++ gap, rest, ?_, column_onLine hoffset,
    hcut.toKeywordCut.isLead hkeyword, ?_, ?_⟩
  · rw [written_onLine, hwritten, List.append_assoc]
    exact hcut.line_eq
  · rw [written_onLine, hwritten]
    exact hcut.isName.nonempty
  · rw [written_onLine, hwritten]
    exact fun c hc => isIdentifierChar_of_isNameChar (hcut.isName.isNameChar c hc)

theorem kind_callback (form : CallbackForm) (bindings : Bindings) :
    (form.attributes bindings).kind = .callback := by
  rw [CallbackForm.attributes]
  cases form.control? <;> rfl

theorem name_callback (form : CallbackForm) (bindings : Bindings) :
    (form.attributes bindings).name = form.name := by
  rw [CallbackForm.attributes]
  cases form.control? <;> rfl

theorem exists_standsIn_callback {form : CallbackForm} (bindings : Bindings)
    (hform : CallbackForm.read? line = some form)
    (hpart : ¬ form.name.toList <:+: "on".toList) :
    ∃ before behind,
      (onLine number line start (form.attributes bindings)).StandsIn line before behind := by
  obtain ⟨indent, gap, rest, hcut, -⟩ := CallbackForm.read?_eq_some_iff.mp hform
  rw [← name_callback form bindings] at hcut hpart
  apply exists_standsIn_name ?_ isName_on hcut hpart
  rw [kind_callback]
  rfl

theorem exists_standsIn_function {form : FunctionForm}
    (hform : FunctionForm.read? line = some form)
    (hpart : ¬ form.name.toList <:+: "function".toList) :
    ∃ before behind, (onLine number line start form.attributes).StandsIn line before behind := by
  obtain ⟨indent, gap, rest, hcut⟩ := FunctionForm.read?_eq_some_iff.mp hform
  exact exists_standsIn_name rfl isName_function hcut hpart

/-- What a line declares comes from one of the three forms. -/
theorem ofLine_cases {bindings : Bindings} {declaration : Declaration}
    (hfound : (ofLine bindings number line).1 = some declaration) :
    (∃ form, VariableForm.read? line = some form ∧
        declaration = onLine number line (margin line) form.attributes) ∨
      (∃ form, CallbackForm.read? line = some form ∧
        declaration = onLine number line (margin line) (form.attributes bindings)) ∨
      ∃ form, FunctionForm.read? line = some form ∧
        declaration = onLine number line (margin line) form.attributes := by
  rw [ofLine] at hfound
  split at hfound
  · rename_i form hform
    rw [VariableForm.keywordColumn_eq hform] at hfound
    cases hfound
    exact .inl ⟨form, hform, rfl⟩
  · split at hfound
    · rename_i form hform
      rw [CallbackForm.keywordColumn_eq hform] at hfound
      cases hfound
      exact .inr (.inl ⟨form, hform, rfl⟩)
    · obtain ⟨form, hform, rfl⟩ := Option.map_eq_some_iff.mp hfound
      rw [FunctionForm.keywordColumn_eq hform]
      exact .inr (.inr ⟨form, hform, rfl⟩)

theorem alone_cases {declaration : Declaration} (hfound : alone number line = some declaration) :
    (∃ form, VariableForm.read? line = some form ∧
        declaration = onLine number line (margin line) form.attributes) ∨
      (∃ form, CallbackForm.read? line = some form ∧
        declaration = onLine number line (margin line) (form.attributes [])) ∨
      ∃ form, FunctionForm.read? line = some form ∧
        declaration = onLine number line (margin line) form.attributes :=
  ofLine_cases hfound

theorem exists_onLine_of_ofLine {bindings : Bindings} {declaration : Declaration}
    (hfound : (ofLine bindings number line).1 = some declaration) :
    ∃ attributes, declaration = onLine number line (margin line) attributes := by
  rcases ofLine_cases hfound with ⟨form, -, hform⟩ | ⟨form, -, hform⟩ | ⟨form, -, hform⟩
  · exact ⟨_, hform⟩
  · exact ⟨_, hform⟩
  · exact ⟨_, hform⟩

/-- A declaration whose name stands out is located where the name stands. -/
theorem exists_standsIn_of_alone {declaration : Declaration}
    (hfound : alone number line = some declaration) (hout : declaration.StandsOut) :
    ∃ before behind, declaration.StandsIn line before behind := by
  rcases alone_cases hfound with ⟨form, hform, rfl⟩ | ⟨form, hform, rfl⟩ | ⟨form, hform, rfl⟩
  · exact exists_standsIn_variable hform
  · have hkind : (onLine number line (margin line) (form.attributes [])).kind = .callback :=
      kind_callback form []
    have hname : (onLine number line (margin line) (form.attributes [])).name = form.name :=
      name_callback form []
    rw [StandsOut, isVariable, keyword, hkind, hname] at hout
    exact exists_standsIn_callback [] hform (hout.resolve_left Bool.false_ne_true)
  · exact exists_standsIn_function hform (hout.resolve_left Bool.false_ne_true)

end Declaration

end KontaktScript

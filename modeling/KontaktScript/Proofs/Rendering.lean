import KontaktScript.Proofs.Form

/-!
# Rendering undoes scanning

What a declaration says can be written down as a line of its own.  Scanning that
line gives the declaration back, its place and the type of its control apart.  A
callback of a control is the exception if its control takes fewer than two
characters: such a control is not written down.
-/

namespace KontaktScript

open Text

namespace Text

theorem trimLeft_trimLeft (text : List Char) : trimLeft (trimLeft text) = trimLeft text :=
  trimLeft_eq_self (not_isBlank_head?_trimLeft text)

theorem trimRight_trimRight (text : List Char) : trimRight (trimRight text) = trimRight text := by
  have htrim : ∀ cs, trimRight cs = (trimLeft cs.reverse).reverse := fun _ => rfl
  rw [htrim, htrim, List.reverse_reverse, trimLeft_trimLeft]

theorem isPrefix_trimRight (text : List Char) : trimRight text <+: text := by
  rw [← List.reverse_suffix, trimRight, List.reverse_reverse]
  exact List.dropWhile_suffix isBlank

/-- White space at the end is removed without bringing any to the start. -/
theorem not_isBlank_head?_trim (text : List Char) :
    ∀ c ∈ (trim text).head?, isBlank c = false := by
  intro c hc
  obtain ⟨tail, htail⟩ := List.head?_eq_some_iff.mp hc
  obtain ⟨rest, hrest⟩ := isPrefix_trimRight (trimLeft text)
  apply not_isBlank_head?_trimLeft text c
  rw [← hrest, ← trim, htail]
  rfl

theorem trim_trim (text : List Char) : trim (trim text) = trim text := by
  calc trim (trim text) = trimRight (trim text) := by
        rw [trim, trimLeft_eq_self (not_isBlank_head?_trim text)]
    _ = trim text := trimRight_trimRight (trimLeft text)

theorem mem_of_mem_trim {text : List Char} {c : Char} (hc : c ∈ trim text) : c ∈ text :=
  (List.dropWhile_sublist isBlank).subset ((isPrefix_trimRight (trimLeft text)).subset hc)

end Text

/-- A line with a keyword at its start. -/
def keywordLine (keyword : String) (rest : List Char) : Line :=
  keyword.toList ++ ' ' :: rest

theorem keywordLine_append (keyword : String) (left right : List Char) :
    keywordLine keyword left ++ right = keywordLine keyword (left ++ right) := by
  simp only [keywordLine, List.append_assoc, List.cons_append]

theorem toList_append_eq_keywordLine {keyword spaced : String}
    (hspaced : spaced.toList = keyword.toList ++ [' ']) (rest : String) :
    (spaced ++ rest).toList = keywordLine keyword rest.toList := by
  rw [String.toList_append, hspaced, List.append_assoc]
  rfl

theorem keywordCut_keywordLine (keyword : String) (rest : List Char) :
    KeywordCut keyword (keywordLine keyword rest) [] [' '] rest where
  line_eq := by simp [keywordLine]
  isBlank_indent := List.forall_mem_nil _
  isBlank_gap := List.all_eq_true.mp (by decide)
  gap_nonempty := List.cons_ne_nil _ _

/-! ## Variables -/

namespace Qualifier

/-- The qualifier as it is written; a plain variable has none. -/
def word : Qualifier → List Char
  | plain => []
  | const => "const".toList
  | polyphonic => "polyphonic".toList
  | ui keyword => keyword.toList

/-- What stands behind a written qualifier. -/
def gap : Qualifier → List Char
  | plain => []
  | _ => [' ']

/-- How a line starts that declares a variable so qualified. -/
def lead : Qualifier → String
  | plain => "declare "
  | const => "declare const "
  | polyphonic => "declare polyphonic "
  | ui keyword => "declare " ++ keyword ++ " "

theorem toList_lead (qualifier : Qualifier) :
    qualifier.lead.toList = keywordLine "declare" (qualifier.word ++ qualifier.gap) := by
  cases qualifier with
  | plain => decide
  | const => decide
  | polyphonic => decide
  | ui keyword =>
      have hblank : " ".toList = [' '] := by decide
      have hdeclare : ("declare " ++ keyword).toList = keywordLine "declare" keyword.toList :=
        toList_append_eq_keywordLine (by decide) keyword
      rw [lead, String.toList_append, hdeclare, keywordLine_append, hblank]
      rfl

theorem isBlank_gap (qualifier : Qualifier) : ∀ c ∈ qualifier.gap, isBlank c = true := by
  cases qualifier with
  | plain => exact List.forall_mem_nil _
  | _ => exact List.forall_mem_singleton.mpr (by decide)

theorem word_of_ofWord? {text : List Char} {qualifier : Qualifier}
    (hqualifier : ofWord? text = some qualifier) : qualifier.word = text := by
  rw [ofWord?] at hqualifier
  split_ifs at hqualifier with hplain hconst hpolyphonic
  · cases hqualifier
    exact hplain.symm
  · cases hqualifier
    exact hconst.symm
  · cases hqualifier
    exact hpolyphonic.symm
  · split at hqualifier
    · cases hqualifier
      exact String.toList_ofList
    · cases hqualifier

end Qualifier

/-- The line starts with a keyword that is not the given one. -/
def StartsOtherwise (keyword : String) (line : Line) : Prop :=
  ∃ other : String, IsName other.toList ∧ keyword ≠ other ∧
    ∃ indent gap rest, KeywordCut other line indent gap rest

theorem VariableForm.read?_eq_none {line : Line} (hline : StartsOtherwise "declare" line) :
    VariableForm.read? line = none := by
  obtain ⟨other, hother, hne, indent, gap, rest, hcut⟩ := hline
  cases hform : VariableForm.read? line with
  | none => rfl
  | some form =>
      obtain ⟨_, _, _, _, _, hvariable, -⟩ := exists_variableCut hform
      exact absurd (hvariable.toKeywordCut.keyword_unique isName_declare hother hcut) hne

theorem CallbackForm.read?_eq_none {line : Line} (hline : StartsOtherwise "on" line) :
    CallbackForm.read? line = none := by
  obtain ⟨other, hother, hne, indent, gap, rest, hcut⟩ := hline
  cases hform : CallbackForm.read? line with
  | none => rfl
  | some form =>
      obtain ⟨_, _, _, hroutine, -⟩ := CallbackForm.read?_eq_some_iff.mp hform
      exact absurd (hroutine.toKeywordCut.keyword_unique isName_on hother hcut) hne

namespace VariableForm

/-- A form that a line can have: its name and its qualifier can be read. -/
structure IsReadable (form : VariableForm) : Prop where
  isName : IsName form.name.toList
  isQualifier : IsQualifier form.qualifier.word
  ofWord?_word : Qualifier.ofWord? form.qualifier.word = some form.qualifier

theorem isReadable_of_read? {line : Line} {form : VariableForm} (hform : read? line = some form) :
    form.IsReadable := by
  obtain ⟨indent, gap, qualifier, space, rest, hcut, hqualifier⟩ := exists_variableCut hform
  have hword := Qualifier.word_of_ofWord? hqualifier
  refine ⟨hcut.isName, ?_, ?_⟩
  · rw [hword]
    exact hcut.isQualifier
  · rwa [hword]

/-- The line that declares just the variable. -/
def line (form : VariableForm) : Line :=
  keywordLine "declare" (form.qualifier.word ++
    (form.qualifier.gap ++ form.type.sigil :: form.name.toList))

theorem rendered_attributes (form : VariableForm) :
    form.attributes.rendered = form.qualifier.lead ++ form.attributes.written := by
  rcases form with ⟨qualifier, type, name⟩
  cases qualifier <;> rfl

theorem toList_rendered (form : VariableForm) : form.attributes.rendered.toList = form.line := by
  have hwritten : form.attributes.written.toList = form.type.sigil :: form.name.toList :=
    String.toList_ofList
  rw [rendered_attributes, String.toList_append, Qualifier.toList_lead, hwritten,
    keywordLine_append, List.append_assoc, line]

variable {form : VariableForm}

/-- A line that declares just the variable is read as it is meant. -/
theorem read?_line (hform : form.IsReadable) : read? form.line = some form := by
  have hparts : form.qualifier.word ++ (form.qualifier.gap ++ form.type.sigil :: form.name.toList) =
      form.qualifier.word ++ form.qualifier.gap ++ (form.type.sigil :: form.name.toList) ++ [] := by
    simp only [List.append_assoc, List.append_nil]
  have hkeyword : KeywordCut "declare" form.line [] [' '] (form.qualifier.word ++
      form.qualifier.gap ++ (form.type.sigil :: form.name.toList) ++ []) := by
    rw [line, hparts]
    exact keywordCut_keywordLine "declare" _
  apply read?_eq_some_iff.mpr
  exact ⟨_, _, _, _, [],
    ⟨hkeyword, hform.isQualifier, form.qualifier.isBlank_gap, hform.isName, by simp⟩,
    hform.ofWord?_word⟩

end VariableForm

/-! ## Callbacks -/

namespace CallbackForm

/-- A form that a line can have: its name and its argument can be read. -/
structure IsReadable (form : CallbackForm) : Prop where
  isName : IsName form.name.toList
  argument : ∀ argument ∈ form.argument, ∃ space content,
    argument = parenthesized space content ∧ ArgumentCut argument space content []

theorem isReadable_of_read? {line : Line} {form : CallbackForm} (hform : read? line = some form) :
    form.IsReadable := by
  obtain ⟨indent, gap, rest, hcut, hargument⟩ := read?_eq_some_iff.mp hform
  refine ⟨hcut.isName, ?_⟩
  intro argument hmem
  rw [hmem] at hargument
  cases hargument with
  | @present space content more hinside =>
      exact ⟨space, content, rfl, rfl, hinside.isBlank_space, hinside.nonempty, hinside.not_mem⟩

def line (form : CallbackForm) : Line :=
  keywordLine "on" (form.name.toList ++ form.argument.getD [])

/-- A line that declares just the callback is read as it is meant. -/
theorem read?_line {form : CallbackForm} (hform : form.IsReadable) :
    read? form.line = some form := by
  have hparts : (∀ c ∈ (form.argument.getD []).head?, isNameChar c = false) ∧
      IsArgument (form.argument.getD []) form.argument := by
    cases hcase : form.argument with
    | none =>
        refine ⟨by simp, .absent ?_⟩
        intro space content more hcut
        have hlength := congrArg List.length hcut.rest_eq
        simp at hlength
    | some argument =>
        obtain ⟨space, content, rfl, hcut⟩ := hform.argument argument hcase
        refine ⟨?_, .present hcut⟩
        apply not_isNameChar_head?_append hcut.isBlank_space
        rintro c ⟨⟩
        decide
  apply read?_eq_some_iff.mpr
  exact ⟨_, _, _, ⟨keywordCut_keywordLine "on" _, hform.isName, hparts.1⟩, hparts.2⟩

/-- Another keyword introduces variables, which are looked for first. -/
theorem not_variable_line (form : CallbackForm) : VariableForm.read? form.line = none := by
  apply VariableForm.read?_eq_none
  exact ⟨_, isName_on, by decide, _, _, _,
    keywordCut_keywordLine "on" _⟩

theorem margin_line (form : CallbackForm) : margin form.line = 0 :=
  (keywordCut_keywordLine "on" _).margin_eq isName_on

/-- Without its first parentheses an argument is the white space before them and what
stands in them. -/
theorem erase_parenthesized {text space content more : List Char}
    (hcut : ArgumentCut text space content more) :
    ((parenthesized space content).erase '(').erase ')' = space ++ content := by
  have hblank : ∀ c, isBlank c = false → c ∉ space := by
    intro c hc hmem
    rw [hcut.isBlank_space c hmem] at hc
    cases hc
  have hopen : '(' ∉ space := hblank '(' (by decide)
  have hclose : ')' ∉ space ++ content := by
    rw [List.mem_append, not_or]
    exact ⟨hblank ')' (by decide), hcut.not_mem⟩
  rw [parenthesized, List.erase_append_right _ hopen, List.erase_cons_head, ← List.append_assoc,
    List.erase_append_right _ hclose, List.erase_cons_head, List.append_nil]

/-- So the control of a callback is what stands in the parentheses, white space around
it apart. -/
theorem trim_erase_parenthesized {text space content more : List Char}
    (hcut : ArgumentCut text space content more) :
    trim (((parenthesized space content).erase '(').erase ')') = trim content := by
  rw [erase_parenthesized hcut, trim, trim, trimLeft, trimLeft,
    List.dropWhile_append_of_pos hcut.isBlank_space]

/-- A callback belongs to a control just if its name starts with `ui_` and it has an
argument. -/
theorem control?_eq_some_iff {form : CallbackForm} {control : List Char} :
    form.control? = some control ↔
      "ui_".toList <+: form.name.toList ∧ ∃ argument, form.argument = some argument ∧
        trim ((argument.erase '(').erase ')') = control := by
  rw [control?, ← isSome_after?_iff]
  by_cases hui : (after? "ui_".toList form.name.toList).isSome = true
  · rw [if_pos hui, Option.map_eq_some_iff, and_iff_right hui]
  · rw [if_neg hui]
    exact iff_of_false (Option.some_ne_none control).symm fun hcontrol => hui hcontrol.1

/-- The control that is written down: one that takes fewer than two characters is not. -/
def kept? (form : CallbackForm) : Option (List Char) :=
  form.control?.filter fun control => 2 ≤ control.length

theorem kept?_of_control? {form : CallbackForm} {control : List Char}
    (hcontrol : form.control? = some control) :
    form.kept? = if 2 ≤ control.length then some control else none := by
  rw [kept?, hcontrol, Option.filter_some]
  simp only [decide_eq_true_eq]

/-- The form as it is written down. -/
def rewritten (form : CallbackForm) : CallbackForm where
  name := form.name
  argument := form.kept?.map (parenthesized [])

theorem argumentCut_of_kept? {form : CallbackForm} (hform : form.IsReadable) {control : List Char}
    (hkept : form.kept? = some control) :
    ArgumentCut (parenthesized [] control) [] control [] := by
  obtain ⟨hcontrol, hlength⟩ := Option.filter_eq_some_iff.mp hkept
  obtain ⟨-, argument, hargument, rfl⟩ := control?_eq_some_iff.mp hcontrol
  obtain ⟨space, content, rfl, hcut⟩ := hform.argument argument hargument
  rw [trim_erase_parenthesized hcut] at hlength ⊢
  refine ⟨rfl, List.forall_mem_nil _, ?_, fun hmem => hcut.not_mem (mem_of_mem_trim hmem)⟩
  intro hnil
  simp [hnil] at hlength

theorem isReadable_rewritten {form : CallbackForm} (hform : form.IsReadable) :
    form.rewritten.IsReadable where
  isName := hform.isName
  argument := by
    intro argument hargument
    obtain ⟨control, hkept, rfl⟩ := Option.map_eq_some_iff.mp hargument
    exact ⟨[], control, rfl, argumentCut_of_kept? hform hkept⟩

/-- The control of what is written down is the one that was to be. -/
theorem control?_rewritten {form : CallbackForm} (hform : form.IsReadable) :
    form.rewritten.control? = form.kept? := by
  cases hkept : form.kept? with
  | none =>
      have hargument : form.rewritten.argument = none := by
        rw [rewritten, hkept, Option.map_none]
      rw [control?, hargument]
      split_ifs <;> rfl
  | some control =>
      obtain ⟨hcontrol, -⟩ := Option.filter_eq_some_iff.mp hkept
      obtain ⟨hui, argument, hargument, htrim⟩ := control?_eq_some_iff.mp hcontrol
      refine control?_eq_some_iff.mpr ⟨hui, parenthesized [] control, ?_, ?_⟩
      · rw [rewritten, hkept, Option.map_some]
      · rw [trim_erase_parenthesized (argumentCut_of_kept? hform hkept), ← htrim, trim_trim]

theorem attributes_rewritten_of_kept {form : CallbackForm} (hform : form.IsReadable)
    (hkept : form.kept? = form.control?) (bindings : Bindings) :
    form.rewritten.attributes bindings = form.attributes bindings := by
  rw [attributes, control?_rewritten hform, hkept, attributes]
  rfl

theorem attributes_rewritten_of_lost {form : CallbackForm} (hform : form.IsReadable)
    (hlost : form.kept? = none) (bindings : Bindings) :
    form.rewritten.attributes bindings =
      { name := form.name, kind := .callback, description := "Callback" } := by
  rw [attributes, control?_rewritten hform, hlost]
  rfl

/-- The description of a control's callback tells the whole control, of which its name
lacks the first character. -/
theorem controlText_attributes (bindings : Bindings) {form : CallbackForm} {control : List Char}
    (hcontrol : form.control? = some control) (hnonempty : control ≠ []) :
    (form.attributes bindings).controlText = String.ofList control := by
  obtain ⟨first, rest, rfl⟩ := List.exists_cons_of_ne_nil hnonempty
  rw [attributes, hcontrol, Attributes.controlText]
  simp only [String.toList_append, String.toList_ofList, after?_append]

/-- That name decides whether the control is written down. -/
theorem ofList_drop_eq_empty_iff {control : List Char} :
    String.ofList (control.drop 1) = "" ↔ control.length < 2 := by
  rw [← String.toList_inj, String.toList_ofList]
  change control.drop 1 = [] ↔ _
  rw [List.drop_eq_nil_iff]
  omega

theorem rendered_attributes (form : CallbackForm) (bindings : Bindings) :
    (form.attributes bindings).rendered =
      form.kept?.elim ("on " ++ form.name) fun control =>
        "on " ++ form.name ++ "(" ++ String.ofList control ++ ")" := by
  cases hcontrol : form.control? with
  | none =>
      rw [kept?, attributes, hcontrol]
      rfl
  | some control =>
      rw [kept?_of_control? hcontrol]
      by_cases hlength : control.length < 2
      · have hname : String.ofList (control.drop 1) = "" := ofList_drop_eq_empty_iff.mpr hlength
        rw [if_neg (Nat.not_le_of_lt hlength), attributes, hcontrol]
        simp only [Attributes.rendered, hname]
        rfl
      · have hname : (String.ofList (control.drop 1) != "") = true :=
          bne_iff_ne.mpr (mt ofList_drop_eq_empty_iff.mp hlength)
        have hnonempty : control ≠ [] := by
          rintro rfl
          exact hlength (by decide)
        have htext := controlText_attributes bindings hcontrol hnonempty
        rw [if_pos (Nat.le_of_not_lt hlength)]
        rw [attributes, hcontrol] at htext ⊢
        simp only [Attributes.rendered, hname, Bool.and_true, if_true, htext]
        rfl

theorem toList_rendered (form : CallbackForm) (bindings : Bindings) :
    (form.attributes bindings).rendered.toList = form.rewritten.line := by
  have hplain : ("on " ++ form.name).toList = keywordLine "on" form.name.toList :=
    toList_append_eq_keywordLine (by decide) form.name
  have hname : form.rewritten.name = form.name := rfl
  rw [rendered_attributes, line, hname, rewritten]
  cases form.kept? with
  | none =>
      rw [Option.elim_none, Option.map_none, Option.getD_none, List.append_nil]
      exact hplain
  | some control =>
      have hopen : "(".toList = ['('] := by decide
      have hclose : ")".toList = [')'] := by decide
      rw [Option.elim_some, String.toList_append, String.toList_append, String.toList_append,
        hplain, hopen, hclose, keywordLine_append, keywordLine_append, keywordLine_append]
      simp only [Option.map_some, Option.getD_some, parenthesized, String.toList_ofList,
        List.append_assoc, List.cons_append, List.nil_append]

end CallbackForm

namespace FunctionForm

theorem isName_of_read? {line : Line} {form : FunctionForm} (hform : read? line = some form) :
    IsName form.name.toList := by
  obtain ⟨indent, gap, rest, hcut⟩ := read?_eq_some_iff.mp hform
  exact hcut.isName

def line (form : FunctionForm) : Line :=
  keywordLine "function" form.name.toList

theorem toList_rendered (form : FunctionForm) : form.attributes.rendered.toList = form.line :=
  toList_append_eq_keywordLine (by decide) form.name

theorem not_variable_line (form : FunctionForm) : VariableForm.read? form.line = none := by
  apply VariableForm.read?_eq_none
  exact ⟨_, isName_function, by decide, _, _, _,
    keywordCut_keywordLine "function" _⟩

theorem not_callback_line (form : FunctionForm) : CallbackForm.read? form.line = none := by
  apply CallbackForm.read?_eq_none
  exact ⟨_, isName_function, by decide, _, _, _,
    keywordCut_keywordLine "function" _⟩

/-- A line that declares just the function is read as it is meant. -/
theorem read?_line {form : FunctionForm} (hname : IsName form.name.toList) :
    read? form.line = some form := by
  have hkeyword := keywordCut_keywordLine "function" (form.name.toList ++ [])
  rw [List.append_nil] at hkeyword
  apply read?_eq_some_iff.mpr
  exact ⟨_, _, [], ⟨by rwa [List.append_nil], hname, by simp⟩⟩

end FunctionForm

namespace Declaration

/-- Two declarations tell the user the same, wherever they stand. -/
def Agrees (left right : Declaration) : Prop :=
  left.attributes.typeName = right.attributes.typeName ∧
    left.attributes.isConst = right.attributes.isConst ∧
    left.attributes.isPolyphonic = right.attributes.isPolyphonic ∧
    left.attributes.isUi = right.attributes.isUi ∧
    left.attributes.controlName = right.attributes.controlName ∧
    left.container = right.container ∧
    left.attributes.description = right.attributes.description

/-- A callback of a control that takes fewer than two characters. -/
def HasBriefControl (declaration : Declaration) : Prop :=
  ∃ control, declaration.control? = some control ∧ control.length < 2

/-- What is found where a declaration was rendered.  It is the same symbol, and tells
the user the same unless a brief control was lost: then it is a plain callback. -/
structure IsRestoredAs (declaration again : Declaration) : Prop where
  name_eq : again.name = declaration.name
  kind_eq : again.kind = declaration.kind
  agrees_iff : again.Agrees declaration ↔ ¬ declaration.HasBriefControl
  plain : declaration.HasBriefControl →
    declaration.attributes.rendered = "on " ++ declaration.name ∧
      again = onLine 0 ("on " ++ declaration.name).toList 0
        { name := declaration.name, kind := .callback, description := "Callback" }

variable {number : UInt32} {line other : Line} {start place : Nat}

theorem rendered_onLine (attributes : Attributes) :
    (onLine number line start attributes).attributes.rendered = attributes.rendered := rfl

theorem isRestoredAs_onLine {attributes : Attributes}
    (hbrief : ¬ (onLine number line start attributes).HasBriefControl) :
    (onLine number line start attributes).IsRestoredAs (onLine 0 other place attributes) where
  name_eq := rfl
  kind_eq := rfl
  agrees_iff := iff_of_true ⟨rfl, rfl, rfl, rfl, rfl, rfl, rfl⟩ hbrief
  plain hcontrol := absurd hcontrol hbrief

theorem not_hasBriefControl_of_control? {declaration : Declaration}
    (hcontrol : declaration.control? = none) : ¬ declaration.HasBriefControl := by
  rintro ⟨control, hsome, -⟩
  rw [hcontrol] at hsome
  cases hsome

theorem isRestoredAs_variable {form : VariableForm} (hform : VariableForm.read? line = some form) :
    ∃ again, alone 0 form.attributes.rendered.toList = some again ∧
      (onLine number line start form.attributes).IsRestoredAs again := by
  have hread := VariableForm.read?_line (VariableForm.isReadable_of_read? hform)
  refine ⟨onLine 0 form.line (margin form.line) form.attributes, ?_, isRestoredAs_onLine ?_⟩
  · rw [form.toList_rendered, alone, ofLine, hread, VariableForm.keywordColumn_eq hread]
  · exact not_hasBriefControl_of_control? rfl

theorem isRestoredAs_function {form : FunctionForm} (hform : FunctionForm.read? line = some form) :
    ∃ again, alone 0 form.attributes.rendered.toList = some again ∧
      (onLine number line start form.attributes).IsRestoredAs again := by
  have hread := FunctionForm.read?_line (FunctionForm.isName_of_read? hform)
  refine ⟨onLine 0 form.line (margin form.line) form.attributes, ?_, isRestoredAs_onLine ?_⟩
  · rw [form.toList_rendered, alone, ofLine, form.not_variable_line, form.not_callback_line, hread,
      FunctionForm.keywordColumn_eq hread]
    rfl
  · exact not_hasBriefControl_of_control? rfl

theorem isRestoredAs_of_brief {form : CallbackForm} (hform : form.IsReadable)
    {control : List Char} (hcontrol : form.control? = some control) (hlength : control.length < 2) :
    (onLine number line start (form.attributes [])).IsRestoredAs
      (onLine 0 form.rewritten.line 0 (form.rewritten.attributes [])) := by
  have hlost : form.kept? = none := by
    rw [CallbackForm.kept?_of_control? hcontrol, if_neg (Nat.not_le_of_lt hlength)]
  have hbrief : (onLine number line start (form.attributes [])).HasBriefControl :=
    ⟨_, control?_onLine_callback number line start [] hcontrol, by rwa [String.length_ofList]⟩
  have hname : (onLine number line start (form.attributes [])).name = form.name :=
    name_callback form []
  have hrendered : (form.attributes []).rendered = "on " ++ form.name := by
    rw [form.rendered_attributes, hlost, Option.elim_none]
  have hui : (form.attributes []).isUi = true := by
    rw [CallbackForm.attributes, hcontrol]
  rw [← form.toList_rendered [], hrendered, CallbackForm.attributes_rewritten_of_lost hform hlost]
  refine ⟨hname.symm, (kind_callback form []).symm, iff_of_false ?_ (not_not_intro hbrief), ?_⟩
  · rintro ⟨-, -, -, hagrees, -⟩
    exact absurd (hagrees.trans hui) Bool.false_ne_true
  · intro _
    rw [rendered_onLine, hname]
    exact ⟨hrendered, rfl⟩

theorem isRestoredAs_of_kept {form : CallbackForm} (hform : form.IsReadable)
    (hkept : form.kept? = form.control?) :
    (onLine number line start (form.attributes [])).IsRestoredAs
      (onLine 0 form.rewritten.line place (form.rewritten.attributes [])) := by
  rw [CallbackForm.attributes_rewritten_of_kept hform hkept]
  apply isRestoredAs_onLine
  cases hcontrol : form.control? with
  | none =>
      apply not_hasBriefControl_of_control?
      rw [CallbackForm.attributes, hcontrol]
      rfl
  | some control =>
      rw [hcontrol] at hkept
      have hlong : 2 ≤ control.length := of_decide_eq_true (Option.filter_eq_some_iff.mp hkept).2
      rintro ⟨text, htext, hlength⟩
      rw [control?_onLine_callback number line start [] hcontrol] at htext
      cases htext
      rw [String.length_ofList] at hlength
      omega

theorem isRestoredAs_callback {form : CallbackForm} (hform : CallbackForm.read? line = some form) :
    ∃ again, alone 0 (form.attributes []).rendered.toList = some again ∧
      (onLine number line start (form.attributes [])).IsRestoredAs again := by
  have hreadable := CallbackForm.isReadable_of_read? hform
  have hread := CallbackForm.read?_line (CallbackForm.isReadable_rewritten hreadable)
  refine ⟨onLine 0 form.rewritten.line 0 (form.rewritten.attributes []), ?_, ?_⟩
  · rw [form.toList_rendered, alone, ofLine, form.rewritten.not_variable_line, hread,
      CallbackForm.keywordColumn_eq hread, form.rewritten.margin_line]
  · cases hcontrol : form.control? with
    | none =>
        apply isRestoredAs_of_kept hreadable
        rw [CallbackForm.kept?, hcontrol]
        rfl
    | some control =>
        by_cases hlength : control.length < 2
        · exact isRestoredAs_of_brief hreadable hcontrol hlength
        · apply isRestoredAs_of_kept hreadable
          rw [CallbackForm.kept?_of_control? hcontrol, if_pos (Nat.le_of_not_lt hlength), hcontrol]

theorem IsRestoredAs.below {declaration again : Declaration}
    (hagain : declaration.IsRestoredAs again) (above : List Declaration) :
    (declaration.below above).IsRestoredAs again :=
  ⟨hagain.name_eq, hagain.kind_eq, hagain.agrees_iff, hagain.plain⟩

theorem exists_isRestoredAs_of_alone {declaration : Declaration}
    (hfound : alone number line = some declaration) :
    ∃ again, alone 0 declaration.attributes.rendered.toList = some again ∧
      declaration.IsRestoredAs again := by
  rcases alone_cases hfound with ⟨form, hform, rfl⟩ | ⟨form, hform, rfl⟩ | ⟨form, hform, rfl⟩
  · rw [rendered_onLine]
    exact isRestoredAs_variable hform
  · rw [rendered_onLine]
    exact isRestoredAs_callback hform
  · rw [rendered_onLine]
    exact isRestoredAs_function hform

end Declaration

theorem declarations_singleton (text : String) :
    declarations [text] none = (Declaration.alone 0 text.toList).toList :=
  List.append_nil _

/-- Whatever is found in a text is found again, and alone, on the line that it is
rendered as.  Only a control of fewer than two characters is lost. -/
theorem rendering_restores_declarations {σ : Type} [LineSource σ] (source : σ)
    (stop : Option Nat) {declaration : Declaration}
    (hmem : declaration ∈ declarations source stop) :
    ∃ again, declarations [declaration.attributes.rendered] none = [again] ∧
      declaration.IsRestoredAs again := by
  rw [declarations_eq_filterMap] at hmem
  obtain ⟨i, -, hplaced⟩ := List.mem_filterMap.mp hmem
  obtain ⟨found, hfound, rfl⟩ := Option.map_eq_some_iff.mp hplaced
  obtain ⟨again, halone, hagain⟩ := Declaration.exists_isRestoredAs_of_alone hfound
  refine ⟨again, ?_, hagain.below _⟩
  have hrendered : (found.below (aloneBefore source i)).attributes.rendered =
      found.attributes.rendered := rfl
  rw [hrendered, declarations_singleton, halone]
  rfl

/-- A control with a parenthesis and a line break in it is written down, one of a single
character is lost. -/
theorem rendering_restores_declarations_but_brief_control :
    let lines := ["on ui_control ( a(\n b )", "  on ui_update( x )"]
    let kept := Declaration.onLine 0 "on ui_control ( a(\n b )".toList 0
      (CallbackForm.attributes ⟨"ui_control", some " ( a(\n b )".toList⟩ [])
    let brief := Declaration.onLine 1 "  on ui_update( x )".toList 2
      (CallbackForm.attributes ⟨"ui_update", some "( x )".toList⟩ [])
    declarations lines none = [kept, brief] ∧
      (∃ again, declarations ["on ui_control(a(\n b)"] none = [again] ∧ again.Agrees kept) ∧
      ∃ again, declarations ["on ui_update"] none = [again] ∧ again.name = "ui_update" ∧
        ¬ again.Agrees brief := by
  intro lines kept brief
  have hfound : declarations lines none = [kept, brief] := by decide +kernel
  have hkept : kept ∈ declarations lines none := by
    rw [hfound]
    exact List.mem_cons_self
  have hbrief : brief ∈ declarations lines none := by
    rw [hfound]
    exact List.mem_cons_of_mem _ List.mem_cons_self
  obtain ⟨first, hfirst, hrestored⟩ := rendering_restores_declarations lines none hkept
  obtain ⟨second, hsecond, hlost⟩ := rendering_restores_declarations lines none hbrief
  have hkeptLine : kept.attributes.rendered = "on ui_control(a(\n b)" := by decide +kernel
  have hbriefLine : brief.attributes.rendered = "on ui_update" := by decide +kernel
  have hkeptControl : kept.control? = some "a(\n b" := by decide +kernel
  have hbriefControl : brief.control? = some "x" := by decide +kernel
  rw [hkeptLine] at hfirst
  rw [hbriefLine] at hsecond
  refine ⟨hfound, ⟨first, hfirst, hrestored.agrees_iff.mpr ?_⟩, second, hsecond, hlost.name_eq, ?_⟩
  · rintro ⟨control, hcontrol, hlength⟩
    rw [hkeptControl] at hcontrol
    cases hcontrol
    exact absurd hlength (by decide)
  · intro hagrees
    exact hlost.agrees_iff.mp hagrees ⟨"x", hbriefControl, by decide⟩

end KontaktScript

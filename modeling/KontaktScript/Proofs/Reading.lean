import KontaktScript.Proofs.Exclusion
import KontaktScript.Proofs.Rendering

/-!
# What a line is read as

A line can be cut into the parts of a form in more than one way, as white space may be
shared out at will.  What it declares is the same for all of them: a variable is made
of the qualifier, the sigil and the name of any cut, a callback of the name and, if the
name is that of a control's callback, of the text in the parentheses behind it.
-/

namespace KontaktScript

open Text

/-! ## Variables -/

namespace Qualifier

variable {word : List Char} {read : Qualifier}

theorem eq_iff_of_ofWord? (hread : ofWord? word = some read) {qualifier : Qualifier}
    (hqualifier : ofWord? qualifier.word = some qualifier) :
    read = qualifier ↔ word = qualifier.word := by
  constructor
  · rintro rfl
    exact (word_of_ofWord? hread).symm
  · rintro rfl
    exact Option.some.inj (hread.symm.trans hqualifier)

theorem exists_ui_iff (hword : IsQualifier word) (hread : ofWord? word = some read) :
    (∃ keyword, read = .ui keyword) ↔ "ui_".toList <+: word := by
  cases hword with
  | plain =>
      cases hread
      exact iff_of_false (fun ⟨_, hui⟩ => Qualifier.noConfusion hui) (by decide +kernel)
  | const =>
      cases hread
      exact iff_of_false (fun ⟨_, hui⟩ => Qualifier.noConfusion hui) (by decide +kernel)
  | polyphonic =>
      cases hread
      exact iff_of_false (fun ⟨_, hui⟩ => Qualifier.noConfusion hui) (by decide +kernel)
  | ui hname =>
      rw [IsQualifier.ofWord?_ui hname] at hread
      exact iff_of_true ⟨_, (Option.some.inj hread).symm⟩ (List.prefix_append _ _)

end Qualifier

namespace VariableForm

theorem isUi_attributes_iff (form : VariableForm) :
    form.attributes.isUi = true ↔ ∃ keyword, form.qualifier = .ui keyword := by
  rcases form with ⟨qualifier, type, name⟩
  cases qualifier with
  | ui keyword => exact iff_of_true rfl ⟨keyword, rfl⟩
  | _ => exact iff_of_false Bool.false_ne_true fun ⟨_, hui⟩ => Qualifier.noConfusion hui

/-- A control has its keyword for its type, any other variable the label of its
sigil. -/
theorem typeName_eq (form : VariableForm) :
    form.typeName =
      if form.attributes.isUi = true then String.ofList form.qualifier.word
      else form.type.label := by
  rcases form with ⟨qualifier, type, name⟩
  cases qualifier with
  | ui keyword => exact String.ofList_toList.symm
  | _ => rfl

/-- Controls are bound to their keywords and nothing else is. -/
theorem lookup_bind (form : VariableForm) (bindings : Bindings) (control : String) :
    (form.bind bindings).lookup control =
      if form.attributes.isUi = true ∧ control = form.attributes.written then
        some (String.ofList form.qualifier.word)
      else bindings.lookup control := by
  rcases form with ⟨qualifier, type, name⟩
  cases qualifier with
  | ui keyword =>
      rw [bind, List.lookup_cons]
      by_cases hcontrol : control = (VariableForm.mk (.ui keyword) type name).attributes.written
      · rw [if_pos ⟨rfl, hcontrol⟩, hcontrol, beq_self_eq_true]
        exact congrArg some String.ofList_toList.symm
      · rw [if_neg fun hbound => hcontrol hbound.2, beq_eq_false_iff_ne.mpr hcontrol]
  | _ => rw [bind, if_neg fun hbound => Bool.false_ne_true hbound.1]

theorem bind_of_not_isUi {form : VariableForm} (hui : form.attributes.isUi = false)
    (bindings : Bindings) : form.bind bindings = bindings := by
  rcases form with ⟨qualifier, type, name⟩
  cases qualifier with
  | ui keyword => cases hui
  | _ => rfl

end VariableForm

/-- A declaration of a variable as a qualifier, a sigil and a name make it. -/
structure Declaration.IsVariableOf (declaration : Declaration) (qualifier : List Char)
    (sigil : Char) (name : List Char) : Prop where
  name_eq : declaration.name = String.ofList name
  kind_eq : declaration.kind = Kind.ofSigil sigil
  isConst_iff : declaration.attributes.isConst = true ↔ qualifier = "const".toList
  isPolyphonic_iff : declaration.attributes.isPolyphonic = true ↔
    qualifier = "polyphonic".toList
  isUi_iff : declaration.attributes.isUi = true ↔ "ui_".toList <+: qualifier
  typeName_eq : declaration.attributes.typeName =
    if declaration.attributes.isUi = true then String.ofList qualifier else declaration.kind.label

theorem IsQualifier.isVariableOf_onLine {qualifier : List Char}
    (hqualifier : IsQualifier qualifier) {read : Qualifier}
    (hread : Qualifier.ofWord? qualifier = some read) (type : VarType) (name : List Char)
    (number : UInt32) (line : Line) (start : Nat) :
    (Declaration.onLine number line start
      (VariableForm.attributes ⟨read, type, String.ofList name⟩)).IsVariableOf
        qualifier type.sigil name where
  name_eq := rfl
  kind_eq := by
    rw [Kind.ofSigil, VarType.ofSigil?_sigil]
    rfl
  isConst_iff := decide_eq_true_iff.trans (Qualifier.eq_iff_of_ofWord? hread rfl)
  isPolyphonic_iff := decide_eq_true_iff.trans (Qualifier.eq_iff_of_ofWord? hread rfl)
  isUi_iff := (VariableForm.isUi_attributes_iff _).trans (Qualifier.exists_ui_iff hqualifier hread)
  typeName_eq := by
    rw [← Qualifier.word_of_ofWord? hread]
    exact VariableForm.typeName_eq _

theorem VariableCut.exists_isVariableOf {line indent gap qualifier space name rest : List Char}
    {type : VarType} (hcut : VariableCut line indent gap qualifier space type name rest)
    (bindings : Bindings) (number : UInt32) :
    ∃ declaration, (Declaration.ofLine bindings number line).1 = some declaration ∧
      declaration.IsVariableOf qualifier type.sigil name ∧
      (∀ control, (Declaration.ofLine bindings number line).2.lookup control =
        if declaration.attributes.isUi = true ∧ control = String.ofList (type.sigil :: name) then
          some (String.ofList qualifier)
        else bindings.lookup control) ∧
      (declaration.attributes.isUi = false →
        (Declaration.ofLine bindings number line).2 = bindings) := by
  obtain ⟨read, hread⟩ := hcut.isQualifier.exists_ofWord?
  have hform := hcut.read?_eq hread
  have hfound : Grammar.var.declare? bindings number line = some
      (.onLine number line (VariableForm.pattern.keywordColumn line)
        (VariableForm.attributes ⟨read, type, String.ofList name⟩),
        VariableForm.bind ⟨read, type, String.ofList name⟩ bindings) := by
    rw [Grammar.declare?, hform, Option.map_some]
    rfl
  have hmade := hcut.isQualifier.isVariableOf_onLine hread type name number line
    (VariableForm.pattern.keywordColumn line)
  have hwritten : (VariableForm.attributes ⟨read, type, String.ofList name⟩).written =
      String.ofList (type.sigil :: name) :=
    congrArg (fun text => String.ofList (type.sigil :: text)) String.toList_ofList
  rw [Declaration.ofLine_of_declare? hfound]
  refine ⟨_, rfl, hmade, ?_, fun hui => VariableForm.bind_of_not_isUi hui bindings⟩
  intro control
  have hlookup := VariableForm.lookup_bind ⟨read, type, String.ofList name⟩ bindings control
  rw [hwritten, Qualifier.word_of_ofWord? hread] at hlookup
  exact hlookup

/-- A line declares a variable just if it can be cut into white space, `declare`, more
white space, an optional qualifier, white space, a sigil, a name and a rest that does not
go on with the name.  All cuts of a line have the same qualifier, sigil, name and rest.
The declaration is made of these, and a control is bound to its keyword, all other
bindings being as before. -/
theorem variable_lines_have_one_reading (bindings : Bindings) (number : UInt32) (line : Line) :
    ((VariableForm.read? line).isSome = true ↔
      ∃ indent gap qualifier space type name rest,
        VariableCut line indent gap qualifier space type name rest) ∧
    ∀ indent gap qualifier space type name rest,
      VariableCut line indent gap qualifier space type name rest →
      (∀ indent' gap' qualifier' space' type' name' rest',
        VariableCut line indent' gap' qualifier' space' type' name' rest' →
        qualifier' = qualifier ∧ type' = type ∧ name' = name ∧ rest' = rest) ∧
      ∃ declaration, (Declaration.ofLine bindings number line).1 = some declaration ∧
        declaration.IsVariableOf qualifier type.sigil name ∧
        (∀ control, (Declaration.ofLine bindings number line).2.lookup control =
          if declaration.attributes.isUi = true ∧
              control = String.ofList (type.sigil :: name) then
            some (String.ofList qualifier)
          else bindings.lookup control) ∧
        (declaration.attributes.isUi = false →
          (Declaration.ofLine bindings number line).2 = bindings) := by
  refine ⟨⟨?_, ?_⟩, ?_⟩
  · intro hread
    obtain ⟨form, hform⟩ := Option.isSome_iff_exists.mp hread
    obtain ⟨indent, gap, qualifier, space, rest, hcut, -⟩ := exists_variableCut hform
    exact ⟨indent, gap, qualifier, space, form.type, form.name.toList, rest, hcut⟩
  · rintro ⟨indent, gap, qualifier, space, type, name, rest, hcut⟩
    obtain ⟨read, hread⟩ := hcut.isQualifier.exists_ofWord?
    rw [hcut.read?_eq hread, Option.isSome_some]
  · intro indent gap qualifier space type name rest hcut
    refine ⟨?_, hcut.exists_isVariableOf bindings number⟩
    intro indent' gap' qualifier' space' type' name' rest' hcut'
    exact hcut.unique hcut'

/-- White space without a qualifier can be shared out in two ways.  A control whose name
and keyword share letters hides one that is known under its name. -/
theorem variable_lines_have_one_reading_sharing_space :
    let plain := "declare \u3000$x[2]".toList
    let control := "\tdeclare ui_x$x (x$x)".toList
    VariableCut plain [] [' '] [] ['\u3000'] .integer ['x'] "[2]".toList ∧
      VariableCut plain [] [' ', '\u3000'] [] [] .integer ['x'] "[2]".toList ∧
      (∀ indent gap qualifier space type name rest,
        VariableCut plain indent gap qualifier space type name rest →
        qualifier = [] ∧ type = .integer ∧ name = ['x'] ∧ rest = "[2]".toList) ∧
      VariableCut control ['\t'] [' '] ("ui_".toList ++ ['x']) [] .integer ['x']
        " (x$x)".toList ∧
      ∃ declaration,
        (Declaration.ofLine [("$x", "ui_knob")] 7 control).1 = some declaration ∧
        declaration.IsVariableOf ("ui_".toList ++ ['x']) '$' ['x'] ∧
        (Declaration.ofLine [("$x", "ui_knob")] 7 control).2.lookup "$x" = some "ui_x" := by
  intro plain control
  have hname : IsName ['x'] := isName_of_all (by decide) (by decide)
  have hkeyword : KeywordCut "declare" plain [] [' '] (['\u3000'] ++ ['$', 'x'] ++ "[2]".toList) :=
    ⟨by decide, List.forall_mem_nil _, List.all_eq_true.mp (by decide), by decide⟩
  have hother : KeywordCut "declare" plain [] [' ', '\u3000'] (['$', 'x'] ++ "[2]".toList) :=
    ⟨by decide, List.forall_mem_nil _, List.all_eq_true.mp (by decide), by decide⟩
  have hbracket : ∀ c ∈ "[2]".toList.head?, isNameChar c = false := by
    rintro c ⟨⟩
    decide
  have hplain : VariableCut plain [] [' '] [] ['\u3000'] .integer ['x'] "[2]".toList :=
    ⟨hkeyword, .plain, List.all_eq_true.mp (by decide), hname, hbracket⟩
  have hshared : VariableCut plain [] [' ', '\u3000'] [] [] .integer ['x'] "[2]".toList :=
    ⟨hother, .plain, List.forall_mem_nil _, hname, hbracket⟩
  have hcontrol : VariableCut control ['\t'] [' '] ("ui_".toList ++ ['x']) [] .integer ['x']
      " (x$x)".toList :=
    { line_eq := by decide
      isBlank_indent := List.all_eq_true.mp (by decide)
      isBlank_gap := List.all_eq_true.mp (by decide)
      gap_nonempty := by decide
      isQualifier := .ui hname
      isBlank_space := List.forall_mem_nil _
      isName := hname
      rest_closed := by
        rintro c ⟨⟩
        decide }
  have hunique := ((variable_lines_have_one_reading [] 0 plain).2 _ _ _ _ _ _ _ hplain).1
  obtain ⟨-, declaration, hfound, hmade, hlookup, -⟩ :=
    (variable_lines_have_one_reading [("$x", "ui_knob")] 7 control).2 _ _ _ _ _ _ _ hcontrol
  refine ⟨hplain, hshared, hunique, hcontrol, declaration, hfound, hmade, ?_⟩
  rw [hlookup, if_pos ⟨hmade.isUi_iff.mpr (List.prefix_append _ _), by decide⟩]
  rfl

/-! ## Callbacks -/

/-- A text cut into white space, a part that neither starts nor ends with white space,
and more white space. -/
structure TrimCut (text left inner right : List Char) : Prop where
  text_eq : text = left ++ inner ++ right
  isBlank_left : ∀ c ∈ left, isBlank c = true
  isBlank_right : ∀ c ∈ right, isBlank c = true
  head_closed : ∀ c ∈ inner.head?, isBlank c = false
  last_closed : ∀ c ∈ inner.getLast?, isBlank c = false

theorem exists_trimCut (text : List Char) : ∃ left right, TrimCut text left (trim text) right := by
  have htrim : trim text = ((trimLeft text).reverse.dropWhile isBlank).reverse := rfl
  refine ⟨text.takeWhile isBlank, ((trimLeft text).reverse.takeWhile isBlank).reverse,
    ?_, ?_, ?_, not_isBlank_head?_trim text, ?_⟩
  · calc text = text.takeWhile isBlank ++ trimLeft text := List.takeWhile_append_dropWhile.symm
      _ = text.takeWhile isBlank ++ ((trimLeft text).reverse.takeWhile isBlank ++
          (trimLeft text).reverse.dropWhile isBlank).reverse := by
        rw [List.takeWhile_append_dropWhile, List.reverse_reverse]
      _ = _ := by rw [List.reverse_append, htrim, List.append_assoc]
  · exact fun c hc => List.mem_takeWhile_imp hc
  · exact fun c hc => List.mem_takeWhile_imp (List.mem_reverse.mp hc)
  · rw [htrim, List.getLast?_reverse]
    exact head?_dropWhile_eq_false isBlank (trimLeft text).reverse

namespace CallbackForm

variable {form : CallbackForm}

theorem attributes_of_control? {control : List Char} (hcontrol : form.control? = some control)
    (bindings : Bindings) :
    form.attributes bindings =
      { name := form.name
        kind := .callback
        isUi := true
        controlName := String.ofList (control.drop 1)
        controlType := (bindings.lookup (String.ofList control)).getD ""
        description := "UI Callback for " ++ String.ofList control } := by
  rw [attributes, hcontrol]
  rfl

theorem attributes_of_control?_eq_none (hcontrol : form.control? = none) (bindings : Bindings) :
    form.attributes bindings =
      { name := form.name, kind := .callback, description := "Callback" } := by
  rw [attributes, hcontrol]

theorem isUi_attributes_iff (form : CallbackForm) (bindings : Bindings) :
    (form.attributes bindings).isUi = true ↔ ∃ control, form.control? = some control := by
  cases hcontrol : form.control? with
  | none =>
      rw [attributes_of_control?_eq_none hcontrol]
      exact iff_of_false Bool.false_ne_true fun ⟨control, hsome⟩ =>
        Option.some_ne_none control hsome.symm
  | some control =>
      rw [attributes_of_control? hcontrol]
      exact iff_of_true rfl ⟨control, rfl⟩

end CallbackForm

section Callback

variable {line indent gap rest : List Char} {name : String}

theorem RoutineCut.ofLine_callback (hcut : RoutineCut "on" line indent gap name.toList rest)
    {argument : Option (List Char)} (hargument : IsArgument rest argument)
    (bindings : Bindings) (number : UInt32) :
    Declaration.ofLine bindings number line =
      (some (.onLine number line (CallbackForm.pattern.keywordColumn line)
        (CallbackForm.attributes ⟨name, argument⟩ bindings)), bindings) := by
  have hread : CallbackForm.read? line = some ⟨name, argument⟩ :=
    CallbackForm.read?_eq_some_iff.mpr ⟨indent, gap, rest, hcut, hargument⟩
  have hfound : Grammar.callback.declare? bindings number line = some
      (.onLine number line (CallbackForm.pattern.keywordColumn line)
        (CallbackForm.attributes ⟨name, argument⟩ bindings), bindings) := by
    rw [Grammar.declare?, hread, Option.map_some]
    rfl
  exact Declaration.ofLine_of_declare? hfound

theorem ArgumentCut.argument_eq {space content more : List Char} {argument : Option (List Char)}
    (hcut : ArgumentCut rest space content more) (hargument : IsArgument rest argument) :
    argument = some (parenthesized space content) := by
  cases hargument with
  | present hother =>
      obtain ⟨rfl, rfl, -⟩ := hcut.unique hother
      rfl
  | absent hnone => exact absurd hcut (hnone space content more)

/-- The control of a callback is found between its parentheses. -/
theorem ArgumentCut.control?_eq {space content more : List Char} {argument : Option (List Char)}
    (hcut : ArgumentCut rest space content more) (hargument : IsArgument rest argument)
    (hui : "ui_".toList <+: name.toList) :
    CallbackForm.control? ⟨name, argument⟩ = some (trim content) :=
  CallbackForm.control?_eq_some_iff.mpr ⟨hui, _, hcut.argument_eq hargument,
    CallbackForm.trim_erase_parenthesized hcut⟩

/-- The callback of which a cut gives the name and the rest belongs to a control just if
the name starts with `ui_` and the rest with an argument. -/
theorem IsArgument.exists_control?_iff {argument : Option (List Char)}
    (hargument : IsArgument rest argument) :
    (∃ control, CallbackForm.control? ⟨name, argument⟩ = some control) ↔
      "ui_".toList <+: name.toList ∧
        ∃ space content more, ArgumentCut rest space content more := by
  constructor
  · rintro ⟨control, hcontrol⟩
    obtain ⟨hui, text, htext, -⟩ := CallbackForm.control?_eq_some_iff.mp hcontrol
    cases hargument with
    | present hcut => exact ⟨hui, _, _, _, hcut⟩
    | absent hnone => cases htext
  · rintro ⟨hui, space, content, more, hcut⟩
    exact ⟨_, hcut.control?_eq hargument hui⟩

end Callback

/-- A line declares a callback just if it can be cut into white space, `on`, more white
space, a name and a rest that does not go on with the name.  The callback belongs to a
control just if the name starts with `ui_` and the rest, after white space, with
parentheses around something.  The control is what stands between them, white space
around it apart: so it is shown, and so it is looked up among the controls known. -/
theorem callback_lines_have_one_reading (bindings : Bindings) (number : UInt32) (line : Line) :
    ((CallbackForm.read? line).isSome = true ↔
      ∃ indent gap, ∃ name : String, ∃ rest,
        RoutineCut "on" line indent gap name.toList rest) ∧
    ∀ indent gap, ∀ name : String, ∀ rest, RoutineCut "on" line indent gap name.toList rest →
      ∃ declaration, Declaration.ofLine bindings number line = (some declaration, bindings) ∧
        declaration.kind = .callback ∧
        declaration.name = name ∧
        (declaration.attributes.isUi = true ↔
          "ui_".toList <+: name.toList ∧
            ∃ space content more, ArgumentCut rest space content more) ∧
        (∀ space content more, "ui_".toList <+: name.toList →
          ArgumentCut rest space content more →
          ∃ left control right, TrimCut content left control right ∧
            declaration.container = "UI Callback for " ++ String.ofList control ∧
            declaration.attributes.controlType =
              (bindings.lookup (String.ofList control)).getD "" ∧
            declaration.attributes.controlName = String.ofList (control.drop 1)) ∧
        (declaration.attributes.isUi = false →
          declaration.container = "Callback" ∧ declaration.attributes.controlName = "") := by
  refine ⟨⟨?_, ?_⟩, ?_⟩
  · intro hread
    obtain ⟨form, hform⟩ := Option.isSome_iff_exists.mp hread
    obtain ⟨indent, gap, rest, hcut, -⟩ := CallbackForm.read?_eq_some_iff.mp hform
    exact ⟨indent, gap, form.name, rest, hcut⟩
  · rintro ⟨indent, gap, name, rest, hcut⟩
    obtain ⟨argument, hargument⟩ := exists_isArgument rest
    have hread : CallbackForm.read? line = some ⟨name, argument⟩ :=
      CallbackForm.read?_eq_some_iff.mpr ⟨indent, gap, rest, hcut, hargument⟩
    rw [hread, Option.isSome_some]
  · intro indent gap name rest hcut
    obtain ⟨argument, hargument⟩ := exists_isArgument rest
    have hcontrols := CallbackForm.isUi_attributes_iff ⟨name, argument⟩ bindings
    refine ⟨_, hcut.ofLine_callback hargument bindings number, Declaration.kind_callback _ bindings,
      Declaration.name_callback _ bindings, hcontrols.trans hargument.exists_control?_iff, ?_, ?_⟩
    · intro space content more hui hinside
      obtain ⟨left, right, htrim⟩ := exists_trimCut content
      rw [CallbackForm.attributes_of_control? (hinside.control?_eq hargument hui)]
      exact ⟨left, trim content, right, htrim, rfl, rfl, rfl⟩
    · intro hplain
      have hcontrol : CallbackForm.control? ⟨name, argument⟩ = none := by
        apply Option.eq_none_iff_forall_not_mem.mpr
        intro control hsome
        exact Bool.eq_false_iff.mp hplain (hcontrols.mpr ⟨control, hsome⟩)
      rw [CallbackForm.attributes_of_control?_eq_none hcontrol]
      exact ⟨rfl, rfl⟩

/-- A control with a parenthesis and a line break in it. -/
theorem callback_lines_have_one_reading_of_parenthesis :
    let line := "on ui_control ( a(\n b ) (c)".toList
    let bindings := [("a(\n b", "ui_knob")]
    RoutineCut "on" line [] [' '] "ui_control".toList " ( a(\n b ) (c)".toList ∧
      ArgumentCut " ( a(\n b ) (c)".toList [' '] " a(\n b ".toList " (c)".toList ∧
      ∃ declaration, Declaration.ofLine bindings 0 line = (some declaration, bindings) ∧
        declaration.attributes.isUi = true ∧
        ∃ left control right, TrimCut " a(\n b ".toList left control right ∧
          declaration.container = "UI Callback for " ++ String.ofList control ∧
          declaration.attributes.controlType =
            (bindings.lookup (String.ofList control)).getD "" ∧
          declaration.attributes.controlName = String.ofList (control.drop 1) := by
  intro line bindings
  have hcut : RoutineCut "on" line [] [' '] "ui_control".toList " ( a(\n b ) (c)".toList :=
    { line_eq := by decide
      isBlank_indent := List.forall_mem_nil _
      isBlank_gap := List.all_eq_true.mp (by decide)
      gap_nonempty := by decide
      isName := isName_of_all (by decide) (by decide)
      rest_closed := by
        rintro c ⟨⟩
        decide }
  have hargument : ArgumentCut " ( a(\n b ) (c)".toList [' '] " a(\n b ".toList " (c)".toList :=
    ⟨by decide, List.all_eq_true.mp (by decide), by decide, by decide⟩
  have hui : "ui_".toList <+: "ui_control".toList := by decide +kernel
  obtain ⟨declaration, hfound, -, -, hcontrols, hcontrol, -⟩ :=
    (callback_lines_have_one_reading bindings 0 line).2 _ _ _ _ hcut
  exact ⟨hcut, hargument, declaration, hfound, hcontrols.mpr ⟨hui, _, _, _, hargument⟩,
    hcontrol _ _ _ hui hargument⟩

end KontaktScript

import KontaktScript.Proofs.Reading
import KontaktScript.Proofs.Resolution

/-!
# Declarations agree with themselves

A declaration says some things twice, and its flags and its kind are not free of each
other.  Whoever shows declarations or resolves names takes this for granted.  Each form
sees to it for the declarations that it makes, with one exception: what a callback says
about its control comes from the controls above it.  There all that a control can be
bound to is a keyword of controls, on every line that a scan comes to.
-/

namespace KontaktScript

open Text

/-- The flags and the control of a symbol fit its kind and each other. -/
structure Attributes.IsCoherent (attributes : Attributes) : Prop where
  one_flag : [attributes.isConst, attributes.isPolyphonic, attributes.isUi].count true ≤ 1
  isVariable_of_qualified : attributes.isConst = true ∨ attributes.isPolyphonic = true →
    attributes.kind.isVariable = true
  name_of_uiCallback : attributes.kind.isCallback = true → attributes.isUi = true →
    "ui_".toList <+: attributes.name.toList
  not_isUi_of_function : attributes.kind.isFunction = true → attributes.isUi = false
  control_eq : ¬ (attributes.kind.isCallback = true ∧ attributes.isUi = true) →
    attributes.controlName = "" ∧ attributes.controlType = ""
  keyword_of_controlType : attributes.controlType ≠ "" →
    "ui_".toList <+: attributes.controlType.toList

/-- All that controls are bound to are keywords of controls. -/
def Bindings.HoldKeywords (bindings : Bindings) : Prop :=
  ∀ control keyword, bindings.lookup control = some keyword → "ui_".toList <+: keyword.toList

/-- A symbol without flags and without a control. -/
theorem Attributes.isCoherent_plain (name : String) (kind : Kind) (description : String) :
    Attributes.IsCoherent { name, kind, description } where
  one_flag := Nat.zero_le 1
  isVariable_of_qualified hflag := by
    rcases hflag with hconst | hpolyphonic
    · cases hconst
    · cases hpolyphonic
  name_of_uiCallback _ hui := absurd hui Bool.false_ne_true
  not_isUi_of_function _ := rfl
  control_eq _ := ⟨rfl, rfl⟩
  keyword_of_controlType htype := absurd rfl htype

theorem VariableForm.isCoherent_attributes (form : VariableForm) :
    form.attributes.IsCoherent where
  one_flag := by
    rcases form with ⟨qualifier, type, name⟩
    cases qualifier with
    | plain => exact Nat.zero_le 1
    | const => exact Nat.le_refl 1
    | polyphonic => exact Nat.le_refl 1
    | ui keyword => exact Nat.le_refl 1
  isVariable_of_qualified _ := rfl
  name_of_uiCallback hkind := absurd hkind Bool.false_ne_true
  not_isUi_of_function hkind := absurd hkind Bool.false_ne_true
  control_eq _ := ⟨rfl, rfl⟩
  keyword_of_controlType htype := absurd rfl htype

theorem CallbackForm.isCoherent_attributes (form : CallbackForm) {bindings : Bindings}
    (hbindings : bindings.HoldKeywords) : (form.attributes bindings).IsCoherent := by
  cases hcontrol : form.control? with
  | none =>
      rw [attributes_of_control?_eq_none hcontrol]
      exact Attributes.isCoherent_plain form.name .callback "Callback"
  | some control =>
      have htype : ∀ found, bindings.lookup (String.ofList control) = found →
          found.getD "" ≠ "" → "ui_".toList <+: (found.getD "").toList := by
        intro found hfound hne
        cases found with
        | none => exact absurd rfl hne
        | some keyword => exact hbindings (String.ofList control) keyword hfound
      rw [attributes_of_control? hcontrol]
      exact
        { one_flag := Nat.le_refl 1
          isVariable_of_qualified := by
            intro hflag
            rcases hflag with hconst | hpolyphonic
            · cases hconst
            · cases hpolyphonic
          name_of_uiCallback := fun _ _ => (control?_eq_some_iff.mp hcontrol).1
          not_isUi_of_function := fun hkind => absurd hkind Bool.false_ne_true
          control_eq := fun hplain => absurd ⟨rfl, rfl⟩ hplain
          keyword_of_controlType := htype _ rfl }

theorem FunctionForm.isCoherent_attributes (form : FunctionForm) :
    form.attributes.IsCoherent :=
  Attributes.isCoherent_plain form.name .function "Function"

namespace Declaration.IsProper

variable {declaration : Declaration}

theorem one_class (hproper : declaration.IsProper) :
    [declaration.isVariable, declaration.isCallback, declaration.isFunction].count true = 1 := by
  rw [isVariable, isCallback, isFunction]
  cases hkind : declaration.kind with
  | unknown => exact absurd hkind hproper.kind_ne
  | _ => rfl

theorem isIdentifier_written (hproper : declaration.IsProper) :
    isIdentifier declaration.written = true := by
  apply isIdentifier_of_forall
  cases hvariable : declaration.isVariable with
  | true =>
      obtain ⟨type, hwritten⟩ := hproper.exists_sigil_of_isVariable hvariable
      rw [hwritten, List.forall_mem_cons]
      exact ⟨type.isIdentifierChar_sigil, fun c hc =>
        isIdentifierChar_of_isNameChar (hproper.isName.isNameChar c hc)⟩
  | false =>
      rw [written_of_not_isVariable hvariable hproper.name_eq]
      exact fun c hc => isIdentifierChar_of_isNameChar (hproper.isName.isNameChar c hc)

theorem splitSigil?_written_eq (hproper : declaration.IsProper) :
    (splitSigil? declaration.written).map (Prod.map Kind.var id) =
      if declaration.isVariable = true then some (declaration.kind, declaration.name)
      else none := by
  cases hvariable : declaration.isVariable with
  | true =>
      obtain ⟨type, hkind⟩ := exists_kind_of_isVariable hvariable
      rw [splitSigil?_written hkind hproper.name_eq, if_pos rfl, hkind]
      rfl
  | false =>
      rw [written_of_not_isVariable hvariable hproper.name_eq, if_neg Bool.false_ne_true,
        splitSigil?_of_isName hproper.isName]
      rfl

end Declaration.IsProper

/-- What a declaration says twice it says alike, its flags and its control fit its kind,
and it is written as an identifier that tells its kind and its name. -/
structure Declaration.IsCoherent (declaration : Declaration) : Prop extends
    declaration.IsProper, declaration.attributes.IsCoherent where
  container_eq : declaration.container = declaration.attributes.description
  place_eq : declaration.location = ⟨declaration.attributes.line, declaration.attributes.column⟩
  one_class :
    [declaration.isVariable, declaration.isCallback, declaration.isFunction].count true = 1
  isIdentifier_written : isIdentifier declaration.written = true
  splitSigil?_written : (splitSigil? declaration.written).map (Prod.map Kind.var id) =
    if declaration.isVariable = true then some (declaration.kind, declaration.name) else none

namespace Declaration

variable {bindings : Bindings} {number : UInt32} {line : Line} {declaration : Declaration}

theorem ofLine_snd_of_not_variable (hform : VariableForm.read? line = none) :
    (ofLine bindings number line).2 = bindings := by
  rw [ofLine, hform]
  cases CallbackForm.read? line <;> rfl

/-- A line that declares a control binds it to its keyword, and no other line binds
anything. -/
theorem holdKeywords_ofLine (hbindings : bindings.HoldKeywords) :
    Bindings.HoldKeywords (ofLine bindings number line).2 := by
  cases hform : VariableForm.read? line with
  | none => rwa [ofLine_snd_of_not_variable hform]
  | some form =>
      obtain ⟨_, _, qualifier, _, _, hcut, -⟩ := exists_variableCut hform
      obtain ⟨made, -, hmade, hlookup, -⟩ := hcut.exists_isVariableOf bindings number
      have hword : (String.ofList qualifier).toList = qualifier := String.toList_ofList
      intro control keyword hbound
      rw [hlookup] at hbound
      split_ifs at hbound with hui
      · cases hbound
        rw [hword]
        exact hmade.isUi_iff.mp hui.1
      · exact hbindings control keyword hbound

/-- Where a symbol stands does not matter. -/
theorem isCoherent_onLine {start : Nat} {attributes : Attributes}
    (hattributes : attributes.IsCoherent) :
    (onLine number line start attributes).attributes.IsCoherent :=
  ⟨hattributes.one_flag, hattributes.isVariable_of_qualified, hattributes.name_of_uiCallback,
    hattributes.not_isUi_of_function, hattributes.control_eq,
    hattributes.keyword_of_controlType⟩

theorem isCoherent_attributes_of_ofLine (hbindings : bindings.HoldKeywords)
    (hfound : (ofLine bindings number line).1 = some declaration) :
    declaration.attributes.IsCoherent := by
  rcases ofLine_cases hfound with ⟨form, -, rfl⟩ | ⟨form, -, rfl⟩ | ⟨form, -, rfl⟩
  · exact isCoherent_onLine form.isCoherent_attributes
  · exact isCoherent_onLine (form.isCoherent_attributes hbindings)
  · exact isCoherent_onLine form.isCoherent_attributes

/-- Every line declares something that agrees with itself, if the controls above it are
bound to keywords. -/
theorem isCoherent_of_ofLine (hbindings : bindings.HoldKeywords)
    (hfound : (ofLine bindings number line).1 = some declaration) : declaration.IsCoherent := by
  have hproper := isProper_of_ofLine hfound
  have hattributes := isCoherent_attributes_of_ofLine hbindings hfound
  obtain ⟨attributes, hline⟩ := exists_onLine_of_ofLine hfound
  exact
    { hproper, hattributes with
      container_eq := by rw [hline]; rfl
      place_eq := by rw [hline]; rfl
      one_class := hproper.one_class
      isIdentifier_written := hproper.isIdentifier_written
      splitSigil?_written := hproper.splitSigil?_written_eq }

end Declaration

/-- What every line keeps true of the bindings and, where it is true of them, makes true
of what it declares is true of all that a scan finds. -/
theorem forall_mem_declarationsFrom {Kept : Bindings → Prop} {Holds : Declaration → Prop}
    (hkept : ∀ {bindings} number line, Kept bindings →
      Kept (Declaration.ofLine bindings number line).2)
    (hholds : ∀ {bindings number line declaration}, Kept bindings →
      (Declaration.ofLine bindings number line).1 = some declaration → Holds declaration)
    {bindings : Bindings} (hbindings : Kept bindings) (number : Nat) (lines : List Line) :
    ∀ declaration ∈ declarationsFrom bindings number lines, Holds declaration := by
  induction lines generalizing bindings number with
  | nil => exact List.forall_mem_nil _
  | cons line lines ih =>
      rw [declarationsFrom, List.forall_mem_append]
      refine ⟨?_, ih (hkept number.toUInt32 line hbindings) (number + 1)⟩
      intro declaration hmem
      exact hholds hbindings (Option.mem_toList.mp hmem)

/-- Every declaration that a scan finds agrees with itself. -/
theorem declarations_agree_with_themselves {σ : Type} [LineSource σ] (source : σ)
    (stop : Option Nat) {declaration : Declaration}
    (hmem : declaration ∈ declarations source stop) : declaration.IsCoherent := by
  have hempty : Bindings.HoldKeywords [] := by
    intro control keyword hbound
    cases hbound
  exact forall_mem_declarationsFrom (fun _ _ => Declaration.holdKeywords_ofLine)
    Declaration.isCoherent_of_ofLine hempty 0 _ declaration hmem

/-- A callback of a control that is declared above it. -/
theorem declarations_agree_with_themselves_below_control :
    let source := ["declare ui_knob $v (0, 1, 1)", "on ui_control ( $v )"]
    let callback := Declaration.onLine 1 "on ui_control ( $v )".toList 0
      { name := "ui_control", kind := .callback, isUi := true, controlName := "v",
        controlType := "ui_knob", description := "UI Callback for $v" }
    callback ∈ declarations source none ∧ callback.IsCoherent := by
  intro source callback
  have hmem : callback ∈ declarations source none := by
    have hsecond : (declarations source none)[1]? = some callback := by decide +kernel
    exact List.mem_of_getElem? hsecond
  exact ⟨hmem, declarations_agree_with_themselves source none hmem⟩

end KontaktScript

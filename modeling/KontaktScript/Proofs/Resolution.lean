import KontaktScript.Proofs.Definition
import KontaktScript.Proofs.Outline
import KontaktScript.Proofs.Rendering
import Mathlib.Data.List.Find

/-!
# What an identifier refers to

An identifier with a sigil is looked up among the variables of the sigil's type,
one without among callbacks and functions first and then among variables.  On the
declarations that scanning finds the two come to one rule, since no declared name
starts with a sigil: an identifier refers to the first declaration that is written
like it, and failing that to the first variable of that name.  From this follows
where a definition leads.
-/

namespace KontaktScript

open Text

theorem splitSigil?_eq_some_iff {text name : String} {type : VarType} :
    splitSigil? text = some (type, name) ↔ text.toList = type.sigil :: name.toList := by
  rw [splitSigil?]
  constructor
  · intro hsplit
    split at hsplit
    · cases hsplit
    · rename_i first rest htext
      obtain ⟨own, hown, hpair⟩ := Option.map_eq_some_iff.mp hsplit
      cases hpair
      rw [String.toList_ofList, VarType.ofSigil?_eq_some_iff.mp hown, htext]
  · intro htext
    rw [htext]
    simp

theorem splitSigil?_eq_none_iff {text : String} :
    splitSigil? text = none ↔ startsWithSigil text = false := by
  rw [splitSigil?, startsWithSigil]
  cases text.toList with
  | nil => simp
  | cons first rest =>
      simp only [Kind.ofSigil]
      cases VarType.ofSigil? first with
      | none => simp [Kind.isVariable]
      | some type => simp [Kind.isVariable]

theorem splitSigil?_of_isName {name : String} (hname : IsName name.toList) :
    splitSigil? name = none := by
  obtain ⟨first, rest, htext⟩ := List.exists_cons_of_ne_nil hname.nonempty
  have hfirst : isNameChar first = true := by
    apply hname.isNameChar
    rw [htext]
    exact List.mem_cons_self
  rw [splitSigil?, htext]
  simp only [(isInner_of_isNameChar hfirst).2, Option.map_none]

namespace Declaration

/-- What every declaration that scanning finds is like: it has a name, it is a
variable, a callback or a function, and the part to select starts where it is
located. -/
structure IsProper (declaration : Declaration) : Prop where
  name_eq : declaration.name = declaration.attributes.name
  isName : IsName declaration.name.toList
  kind_ne : declaration.kind ≠ .unknown
  location_eq : declaration.location = declaration.selection.start

theorem isProper_of_ofLine {bindings : Bindings} {number : UInt32} {line : Line}
    {declaration : Declaration} (hfound : (ofLine bindings number line).1 = some declaration) :
    declaration.IsProper := by
  rcases ofLine_cases hfound with ⟨form, hform, rfl⟩ | ⟨form, hform, rfl⟩ | ⟨form, hform, rfl⟩
  · have hkind : (onLine number line (margin line) form.attributes).kind = .var form.type := rfl
    refine ⟨rfl, (VariableForm.isReadable_of_read? hform).isName, ?_, rfl⟩
    rw [hkind]
    exact Kind.noConfusion
  · have hkind : (onLine number line (margin line) (form.attributes bindings)).kind = .callback :=
      kind_callback form bindings
    have hname : (onLine number line (margin line) (form.attributes bindings)).name = form.name :=
      name_callback form bindings
    refine ⟨rfl, ?_, ?_, rfl⟩
    · rw [hname]
      exact (CallbackForm.isReadable_of_read? hform).isName
    · rw [hkind]
      exact Kind.noConfusion
  · have hkind : (onLine number line (margin line) form.attributes).kind = .function := rfl
    refine ⟨rfl, FunctionForm.isName_of_read? hform, ?_, rfl⟩
    rw [hkind]
    exact Kind.noConfusion

theorem isProper_of_alone {number : UInt32} {line : Line} {declaration : Declaration}
    (hfound : alone number line = some declaration) : declaration.IsProper :=
  isProper_of_ofLine hfound

theorem isProper_of_placedAt {σ : Type} [LineSource σ] {source : σ} {i : Nat}
    {declaration : Declaration} (hplaced : placedAt source i = some declaration) :
    declaration.IsProper := by
  obtain ⟨found, hfound, rfl⟩ := Option.map_eq_some_iff.mp hplaced
  have hproper := isProper_of_alone hfound
  exact ⟨hproper.name_eq, hproper.isName, hproper.kind_ne, hproper.location_eq⟩

theorem isProper_of_mem {σ : Type} [LineSource σ] {source : σ} {stop : Option Nat}
    {declaration : Declaration} (hmem : declaration ∈ declarations source stop) :
    declaration.IsProper := by
  rw [declarations_eq_filterMap] at hmem
  obtain ⟨i, -, hplaced⟩ := List.mem_filterMap.mp hmem
  exact isProper_of_placedAt hplaced

theorem not_isVariable_of_routine {declaration : Declaration}
    (hroutine : declaration.isCallback = true ∨ declaration.isFunction = true) :
    declaration.isVariable = false := by
  rw [isCallback, isFunction] at hroutine
  rw [isVariable]
  cases hkind : declaration.kind with
  | var type =>
      rw [hkind] at hroutine
      rcases hroutine with hroutine | hroutine
      · cases hroutine
      · cases hroutine
  | _ => rfl

namespace IsProper

variable {declaration : Declaration} {identifier : String}

theorem isVariable_or_isRoutine (hproper : declaration.IsProper) :
    declaration.isVariable = true ∨
      declaration.isCallback = true ∨ declaration.isFunction = true := by
  rw [isVariable, isCallback, isFunction]
  cases hkind : declaration.kind with
  | unknown => exact absurd hkind hproper.kind_ne
  | var type => exact .inl rfl
  | callback => exact .inr (.inl rfl)
  | function => exact .inr (.inr rfl)

/-- Only a variable of the sigil's type is written with the sigil. -/
theorem written_eq_iff_of_sigil (hproper : declaration.IsProper) {type : VarType} {name : String}
    (hsplit : splitSigil? identifier = some (type, name)) :
    declaration.written = identifier ↔
      declaration.kind = .var type ∧ declaration.name = name := by
  constructor
  · rintro rfl
    cases hvariable : declaration.isVariable with
    | true =>
        obtain ⟨own, hown⟩ := exists_kind_of_isVariable hvariable
        rw [splitSigil?_written hown hproper.name_eq] at hsplit
        cases hsplit
        exact ⟨hown, rfl⟩
    | false =>
        rw [written_of_not_isVariable hvariable hproper.name_eq,
          splitSigil?_of_isName hproper.isName] at hsplit
        cases hsplit
  · rintro ⟨hkind, rfl⟩
    have hwritten := splitSigil?_written hkind hproper.name_eq
    rw [splitSigil?_eq_some_iff] at hwritten hsplit
    exact String.toList_injective (hwritten.trans hsplit.symm)

theorem written_eq_iff_of_bare (hproper : declaration.IsProper)
    (hsplit : splitSigil? identifier = none) :
    declaration.written = identifier ↔
      declaration.isVariable = false ∧ declaration.name = identifier := by
  cases hvariable : declaration.isVariable with
  | true =>
      obtain ⟨own, hown⟩ := exists_kind_of_isVariable hvariable
      have hwritten := splitSigil?_written hown hproper.name_eq
      constructor
      · rintro rfl
        rw [hwritten] at hsplit
        cases hsplit
      · rintro ⟨hfalse, -⟩
        cases hfalse
  | false =>
      rw [written_of_not_isVariable hvariable hproper.name_eq]
      exact (and_iff_right rfl).symm

theorem exists_sigil_of_isVariable (hproper : declaration.IsProper)
    (hvariable : declaration.isVariable = true) :
    ∃ type : VarType, declaration.written.toList = type.sigil :: declaration.name.toList := by
  obtain ⟨type, htype⟩ := exists_kind_of_isVariable hvariable
  exact ⟨type, splitSigil?_eq_some_iff.mp (splitSigil?_written htype hproper.name_eq)⟩

end IsProper

end Declaration

/-- An identifier refers to the first declaration that is written like it, and
failing that to the first variable of that name. -/
theorem resolve?_eq_or {found : List Declaration} (hfound : ∀ d ∈ found, d.IsProper)
    (identifier : String) :
    resolve? found identifier =
      (found.find? fun d => d.written = identifier).or
        (found.find? fun d => d.isVariable && d.name = identifier) := by
  rw [resolve?_eq]
  cases hsplit : splitSigil? identifier with
  | some split =>
      rcases split with ⟨type, name⟩
      have hwritten : (found.find? fun d => d.kind = .var type && d.name = name) =
          found.find? fun d => d.written = identifier := by
        apply List.find?_congr
        intro d hd
        rw [Bool.eq_iff_iff]
        simpa using ((hfound d hd).written_eq_iff_of_sigil hsplit).symm
      have hvariable : (found.find? fun d => d.isVariable && d.name = identifier) = none := by
        rw [List.find?_eq_none]
        intro d hd hnamed
        have hname : d.name = identifier := by
          rw [Bool.and_eq_true] at hnamed
          exact of_decide_eq_true hnamed.2
        have hbare := splitSigil?_of_isName (hfound d hd).isName
        rw [hname, hsplit] at hbare
        cases hbare
      simp only [hwritten, hvariable, Option.or_none]
  | none =>
      have hwritten : (found.find? fun d => !d.isVariable && d.name = identifier) =
          found.find? fun d => d.written = identifier := by
        apply List.find?_congr
        intro d hd
        rw [Bool.eq_iff_iff]
        simpa using ((hfound d hd).written_eq_iff_of_bare hsplit).symm
      simp only [hwritten]

/-- An identifier refers to nothing just if nothing is written like it and no
variable has that name. -/
theorem resolve?_eq_none_iff {found : List Declaration} (hfound : ∀ d ∈ found, d.IsProper)
    {identifier : String} :
    resolve? found identifier = none ↔
      ∀ d ∈ found, d.written ≠ identifier ∧ (d.isVariable = true → d.name ≠ identifier) := by
  rw [resolve?_eq_or hfound, Option.or_eq_none_iff, List.find?_eq_none, List.find?_eq_none,
    ← forall₂_and]
  apply forall₂_congr
  intro d hd
  simp

/-- What an identifier refers to is written like it.  Otherwise the identifier has no
sigil, names no callback or function, and is a variable's name without its sigil. -/
theorem written_of_resolve? {found : List Declaration} (hfound : ∀ d ∈ found, d.IsProper)
    {identifier : String} {declaration : Declaration}
    (hresolve : resolve? found identifier = some declaration) :
    declaration.written = identifier ∨
      startsWithSigil identifier = false ∧
        (∀ d ∈ found, d.isCallback = true ∨ d.isFunction = true → d.name ≠ identifier) ∧
        ∃ type : VarType, declaration.written.toList = type.sigil :: identifier.toList := by
  have hmem := mem_of_resolve? hresolve
  rw [resolve?_eq_or hfound] at hresolve
  rcases Option.or_eq_some_iff.mp hresolve with hwritten | ⟨hnone, hnamed⟩
  · left
    simpa using List.find?_some hwritten
  · right
    obtain ⟨hvariable, rfl⟩ :
        declaration.isVariable = true ∧ declaration.name = identifier := by
      simpa using List.find?_some hnamed
    have hbare := splitSigil?_of_isName (hfound declaration hmem).isName
    refine ⟨splitSigil?_eq_none_iff.mp hbare, ?_,
      (hfound declaration hmem).exists_sigil_of_isVariable hvariable⟩
    intro d hd hroutine hname
    have hwritten := ((hfound d hd).written_eq_iff_of_bare hbare).mpr
      ⟨Declaration.not_isVariable_of_routine hroutine, hname⟩
    have hunwritten := List.find?_eq_none.mp hnone d hd
    exact hunwritten (decide_eq_true hwritten)

/-- Of numbered values the first that passes a test comes no later than any that
does. -/
theorem exists_find?_filterMap_range {α : Type} {f : Nat → Option α} (p : α → Bool)
    {count j : Nat} (hj : j < count) {value : α} (hvalue : f j = some value)
    (hpasses : p value = true) :
    ∃ i ≤ j, ∃ first, f i = some first ∧
      ((List.range count).filterMap f).find? p = some first := by
  have hmem : value ∈ (List.range (j + 1)).filterMap f :=
    List.mem_filterMap.mpr ⟨j, List.self_mem_range_succ, hvalue⟩
  have hsome : (((List.range (j + 1)).filterMap f).find? p).isSome = true :=
    List.find?_isSome.mpr ⟨value, hmem, hpasses⟩
  obtain ⟨first, hfirst⟩ := Option.isSome_iff_exists.mp hsome
  obtain ⟨i, hi, hplace⟩ := List.mem_filterMap.mp (List.mem_of_find?_eq_some hfirst)
  refine ⟨i, Nat.le_of_lt_succ (List.mem_range.mp hi), first, hplace, ?_⟩
  exact (filterMap_range_isPrefix f hj).find?_eq_some hfirst

/-- The written name of a declaration refers to the first declaration that is written
like it. -/
theorem exists_resolve?_written {σ : Type} [LineSource σ] {source : σ} {stop : Option Nat} {j : Nat}
    (hj : j < scannedLines source stop) {declaration : Declaration}
    (hplaced : placedAt source j = some declaration) :
    ∃ i ≤ j, ∃ other, placedAt source i = some other ∧ other.written = declaration.written ∧
      resolve? (declarations source stop) declaration.written = some other := by
  obtain ⟨i, hi, other, hother, hfirst⟩ := exists_find?_filterMap_range
    (fun d => decide (d.written = declaration.written)) hj hplaced (decide_eq_true rfl)
  rw [← declarations_eq_filterMap] at hfirst
  have hwritten : other.written = declaration.written := by
    simpa using List.find?_some hfirst
  refine ⟨i, hi, other, hother, hwritten, ?_⟩
  rw [resolve?_eq_or fun d hd => Declaration.isProper_of_mem hd, hfirst, Option.some_or]

namespace Declaration.IsProper

variable {declaration other : Declaration}

/-- What is written like a variable is a variable of its type. -/
theorem kind_eq_of_written (hother : other.IsProper) (hproper : declaration.IsProper)
    (hwritten : other.written = declaration.written) (hvariable : declaration.isVariable = true) :
    other.kind = declaration.kind := by
  obtain ⟨type, htype⟩ := exists_kind_of_isVariable hvariable
  have hsplit := splitSigil?_written htype hproper.name_eq
  rw [((hother.written_eq_iff_of_sigil hsplit).mp hwritten).1, htype]

theorem isRoutine_of_written (hother : other.IsProper) (hproper : declaration.IsProper)
    (hwritten : other.written = declaration.written)
    (hvariable : declaration.isVariable = false) :
    other.isCallback = true ∨ other.isFunction = true := by
  have hbare : splitSigil? declaration.written = none := by
    rw [written_of_not_isVariable hvariable hproper.name_eq]
    exact splitSigil?_of_isName hproper.isName
  have hroutine := ((hother.written_eq_iff_of_bare hbare).mp hwritten).1
  apply hother.isVariable_or_isRoutine.resolve_left
  rw [hroutine]
  exact Bool.false_ne_true

end Declaration.IsProper

/-- An identifier refers to the first declaration of a scan that is written like it, and
failing that to the first variable of that name.  So the written name of a declaration
refers to one that is written alike on the same line or above, a variable of the same
type if it is a variable and otherwise a callback or a function. -/
theorem identifiers_refer_to_first_written {σ : Type} [LineSource σ] (source : σ)
    (stop : Option Nat) :
    let found := declarations source stop
    found = (List.range (scannedLines source stop)).filterMap (placedAt source) ∧
      (∀ identifier, resolve? found identifier =
        (found.find? fun d => d.written = identifier).or
          (found.find? fun d => d.isVariable && d.name = identifier)) ∧
      ∀ j < scannedLines source stop, ∀ declaration, placedAt source j = some declaration →
        ∃ i ≤ j, ∃ other, placedAt source i = some other ∧
          resolve? found declaration.written = some other ∧
          other.written = declaration.written ∧
          (j < UInt32.size → other.location.line ≤ declaration.location.line) ∧
          (declaration.isVariable = true → other.kind = declaration.kind) ∧
          (declaration.isVariable = false →
            other.isCallback = true ∨ other.isFunction = true) := by
  intro found
  refine ⟨declarations_eq_filterMap source stop,
    resolve?_eq_or fun d hd => Declaration.isProper_of_mem hd, ?_⟩
  intro j hj declaration hplaced
  obtain ⟨i, hi, other, hother, hwritten, hresolve⟩ := exists_resolve?_written hj hplaced
  have hproper := Declaration.isProper_of_placedAt hplaced
  have hlike := Declaration.isProper_of_placedAt hother
  refine ⟨i, hi, other, hother, hresolve, hwritten, ?_,
    hlike.kind_eq_of_written hproper hwritten, hlike.isRoutine_of_written hproper hwritten⟩
  intro hsmall
  rw [UInt32.le_iff_toNat_le, toNat_line_of_placedAt source hother (by omega),
    toNat_line_of_placedAt source hplaced hsmall]
  exact hi

/-- A variable that is declared again below symbols of its name, a variable that is
referred to by its bare name, and identifiers that refer to nothing. -/
theorem identifiers_refer_to_first_written_of_redeclared :
    let source := ["declare $n", "on n", "declare ~k", "function n", "declare $n := 1"]
    let found := declarations source none
    (∃ other, resolve? found "$n" = some other ∧ other.kind = .var .integer ∧
        other.location.line ≤ 4) ∧
      (resolve? found "k").map Declaration.written = some "~k" ∧
      resolve? found "" = none ∧ resolve? found "$" = none ∧ resolve? found "$$n" = none := by
  intro source found
  obtain ⟨-, hrule, hlines⟩ := identifiers_refer_to_first_written source none
  have hlast : (placedAt source 4).map (fun d => (d.written, d.kind, d.location.line)) =
      some ("$n", .var .integer, 4) := by
    decide +kernel
  obtain ⟨declaration, hplaced, hparts⟩ := Option.map_eq_some_iff.mp hlast
  simp only [Prod.mk.injEq] at hparts
  obtain ⟨hwritten, hkind, hline⟩ := hparts
  obtain ⟨i, -, other, -, hresolve, -, habove, hsame, -⟩ :=
    hlines 4 (by decide +kernel) declaration hplaced
  rw [hwritten] at hresolve
  rw [hline] at habove
  refine ⟨⟨other, hresolve, ?_, habove (by decide)⟩, ?_, ?_, ?_, ?_⟩
  · rw [hsame (by rw [Declaration.isVariable, hkind]; rfl), hkind]
  · rw [hrule]
    decide +kernel
  · rw [hrule]
    decide +kernel
  · rw [hrule]
    decide +kernel
  · rw [hrule]
    decide +kernel

namespace Document

/-- A range on one line of a document that does not go past the end of the line. -/
structure Holds (doc : Document) (range : Range) : Prop where
  stop_line : range.stop.line = range.start.line
  line_lt : range.start.line.toNat < doc.lineCount
  start_le_stop : range.start.character ≤ range.stop.character
  stop_le : range.stop.character.toNat ≤ Utf16.length (doc.lineText range.start.line.toNat)

theorem Marks.holds {doc : Document} {range : Range} {before part behind : List Char}
    (hmarks : doc.Marks range before part behind) : doc.Holds range where
  stop_line := hmarks.stop_line
  line_lt := by
    apply Nat.lt_of_not_le
    intro hout
    have hnone := (doc.line?_eq_none_iff range.start.line.toNat).mpr hout
    rw [hmarks.line_eq] at hnone
    cases hnone
  start_le_stop := by
    rw [UInt32.le_iff_toNat_le, hmarks.start_eq, hmarks.stop_eq, Utf16.length_append]
    exact Nat.le_add_right _ _
  stop_le := by
    rw [hmarks.stop_eq, lineText_of_line? hmarks.line_eq, Utf16.length_append _ behind]
    exact Nat.le_add_right _ _

end Document

section Definition

variable {doc : Document} {position : Position}

/-- The range of a declared name marks the name as it is written, be it an occurrence
in the keyword. -/
theorem exists_marks_nameSpan_of_mem (hcount : doc.lineCount ≤ UInt32.size)
    (hnarrow : doc.IsNarrow) {declaration : Declaration}
    (hmem : declaration ∈ declarations doc none) :
    ∃ before behind,
      doc.Marks (doc.rangeOf declaration.nameSpan) before declaration.written.toList behind := by
  rw [declarations_eq_filterMap] at hmem
  obtain ⟨i, hrange, hplaced⟩ := List.mem_filterMap.mp hmem
  have hi : i < doc.lineCount := List.mem_range.mp hrange
  have hnumber := toNat_line_of_placedAt doc hplaced (Nat.lt_of_lt_of_le hi hcount)
  obtain ⟨before, behind, hspans⟩ := exists_spans_of_placedAt hplaced
  have hlocation : declaration.location = ⟨i.toUInt32, before.length.toUInt32⟩ := by
    rw [(Declaration.isProper_of_placedAt hplaced).location_eq, hspans.selection_eq]
  refine ⟨before, behind, Declaration.marks_nameSpan_of_column hnarrow ?_ ?_⟩
  · rw [hlocation]
  · rw [hnumber, Document.line?_eq_some_lineText hi, List.append_assoc]
    exact congrArg some hspans.line_eq

theorem exists_token_of_declarationAt? {declaration : Declaration}
    (hdeclaration : declarationAt? doc position = some declaration) :
    ∃ token, Token.at? doc (doc.pointOf position) = some token ∧
      isIdentifier token.text = true ∧
      resolve? (declarations doc none) token.text = some declaration := by
  obtain ⟨token, hidentifier, hresolve⟩ := Option.bind_eq_some_iff.mp hdeclaration
  obtain ⟨htoken, htext⟩ := Option.filter_eq_some_iff.mp hidentifier
  exact ⟨token, htoken, htext, hresolve⟩

/-- Nothing is declared for a position just if there is no token, or one that is no
identifier, or one that no declaration fits. -/
theorem declarationAt?_eq_none_iff :
    declarationAt? doc position = none ↔
      Token.at? doc (doc.pointOf position) = none ∨
        ∃ token, Token.at? doc (doc.pointOf position) = some token ∧
          (isIdentifier token.text = false ∨
            ∀ d ∈ declarations doc none,
              d.written ≠ token.text ∧ (d.isVariable = true → d.name ≠ token.text)) := by
  rw [declarationAt?, identifierAt?]
  cases Token.at? doc (doc.pointOf position) with
  | none => simp
  | some token =>
      have hnone : resolve? (declarations doc none) token.text = none ↔ _ :=
        resolve?_eq_none_iff fun d hd => Declaration.isProper_of_mem hd
      cases htext : isIdentifier token.text with
      | false => simp [htext]
      | true => simp [htext, hnone]

theorem Query.answer_definition_eq_null (tables : Tables) (settings : Settings) (uri : Uri)
    (hnone : declarationAt? doc position = none) :
    (Query.definition uri position).answer tables settings doc = .null := by
  rw [Query.answer, Location.ofDefinition?, hnone]
  rfl

end Definition

/-- A definition in an open script leads to the document asked about, to a range on
one of its lines whose text is the written name of what the token at the position
refers to.  That is the token itself or, if the token is a bare name of no callback
or function, the token behind one sigil.  There is no definition just if there is no
token, or one that is no identifier, or one that no declaration fits. -/
theorem definition_marks_written_name (tables : Tables) (state : State) {uri : Uri}
    {source : OpenDocument} (hopen : state.documents.get? uri = some source)
    (hksp : source.language = .ksp) (hcount : source.document.lineCount ≤ UInt32.size)
    (hnarrow : source.document.IsNarrow) (position : Position) :
    let doc := source.document
    let found := declarations doc none
    let answer := state.answer tables (.definition uri position)
    let cursor := doc.pointOf position
    (answer ≠ .null →
      ∃ (location : Location) (token : Token) (declaration : Declaration)
        (before behind : List Char),
        answer = location.toJson ∧ answer.IsLocation location ∧ location.uri = uri ∧
        Token.at? doc cursor = some token ∧ isIdentifier token.text = true ∧
        resolve? found token.text = some declaration ∧
        doc.Holds location.range ∧
        doc.Marks location.range before declaration.written.toList behind ∧
        (declaration.written = token.text ∨
          startsWithSigil token.text = false ∧
            (∀ d ∈ found, d.isCallback = true ∨ d.isFunction = true → d.name ≠ token.text) ∧
            ∃ type : VarType, declaration.written.toList = type.sigil :: token.text.toList)) ∧
      (answer = .null ↔
        Token.at? doc cursor = none ∨
          ∃ token, Token.at? doc cursor = some token ∧
            (isIdentifier token.text = false ∨
              ∀ d ∈ found,
                d.written ≠ token.text ∧ (d.isVariable = true → d.name ≠ token.text))) := by
  intro doc found answer cursor
  have hanswer : answer = (Query.definition uri position).answer tables state.settings doc :=
    State.answer_of_open tables hopen hksp
  cases hdeclaration : declarationAt? doc position with
  | none =>
      rw [Query.answer_definition_eq_null tables state.settings uri hdeclaration] at hanswer
      constructor
      · intro hsome
        exact absurd hanswer hsome
      · exact iff_of_true hanswer (declarationAt?_eq_none_iff.mp hdeclaration)
  | some declaration =>
      rw [Query.answer_definition tables state.settings hdeclaration] at hanswer
      obtain ⟨token, htoken, htext, hresolve⟩ := exists_token_of_declarationAt? hdeclaration
      constructor
      · intro _
        obtain ⟨before, behind, hmarks⟩ :=
          exists_marks_nameSpan_of_mem hcount hnarrow (mem_of_resolve? hresolve)
        exact ⟨_, token, declaration, before, behind, hanswer,
          hanswer ▸ Location.isLocation_toJson _, rfl, htoken, htext, hresolve, hmarks.holds,
          hmarks, written_of_resolve? (fun d hd => Declaration.isProper_of_mem hd) hresolve⟩
      · apply iff_of_false
        · rw [hanswer]
          exact Json.noConfusion
        · intro hnone
          rw [declarationAt?_eq_none_iff.mpr hnone] at hdeclaration
          cases hdeclaration

/-- A bare name of a variable behind a character of two units, and a name that is
declared nowhere. -/
theorem definition_marks_written_name_of_bare_name :
    let source : OpenDocument := ⟨.ofString "on n\ndeclare %k[2]\n\"𝄞\" & k + z", .ksp, 1⟩
    let state : State := { State.start none false with
      documents := Store.empty.insert ⟨"file:///a.ksp"⟩ source }
    let answer (position : Position) :=
      state.answer ⟨[], [], []⟩ (.definition ⟨"file:///a.ksp"⟩ position)
    source.document.IsNarrow ∧
      (∃ (location : Location) (token : Token) (before behind : List Char),
        answer ⟨2, 8⟩ = location.toJson ∧ (answer ⟨2, 8⟩).IsLocation location ∧
        Token.at? source.document (source.document.pointOf ⟨2, 8⟩) = some token ∧
        token.text = "k" ∧ source.document.Holds location.range ∧
        source.document.Marks location.range before "%k".toList behind) ∧
      answer ⟨2, 11⟩ = .null := by
  intro source state answer
  have hopen : state.documents.get? ⟨"file:///a.ksp"⟩ = some source := by
    simp [state, Store.get?_insert]
  have hcount : source.document.lineCount ≤ UInt32.size := by decide +kernel
  have hnarrow : source.document.IsNarrow := by decide +kernel
  have htoken : Token.at? source.document (source.document.pointOf ⟨2, 8⟩) =
      some ⟨"k", ⟨⟨2, 6⟩, ⟨2, 7⟩⟩⟩ := by
    decide +kernel
  have hwritten : (resolve? (declarations source.document none) "k").map Declaration.written =
      some "%k" := by
    decide +kernel
  have hdeclared : (declarationAt? source.document ⟨2, 8⟩).isSome = true := by decide +kernel
  have hfound : answer ⟨2, 8⟩ ≠ .null := by
    obtain ⟨declaration, hdeclaration⟩ := Option.isSome_iff_exists.mp hdeclared
    simp only [answer]
    rw [State.answer_of_open _ hopen rfl, Query.answer_definition _ _ hdeclaration]
    exact Json.noConfusion
  obtain ⟨location, token, declaration, before, behind, hanswer, hparts, -, hsome, -, hresolve,
    hholds, hmarks, -⟩ :=
      (definition_marks_written_name ⟨[], [], []⟩ state hopen rfl hcount hnarrow ⟨2, 8⟩).1 hfound
  rw [htoken] at hsome
  cases hsome
  rw [hresolve, Option.map_some, Option.some.injEq] at hwritten
  rw [hwritten] at hmarks
  refine ⟨hnarrow, ⟨location, _, before, behind, hanswer, hparts, htoken, rfl, hholds, hmarks⟩, ?_⟩
  apply (definition_marks_written_name ⟨[], [], []⟩ state hopen rfl hcount hnarrow ⟨2, 11⟩).2.mpr
  refine .inr ⟨⟨"z", ⟨⟨2, 10⟩, ⟨2, 11⟩⟩⟩, by decide +kernel, .inr ?_⟩
  decide +kernel

end KontaktScript

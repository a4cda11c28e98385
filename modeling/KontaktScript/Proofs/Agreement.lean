import KontaktScript.Proofs.Resolution

/-!
# Hovers agree with definitions

A hover shows a builtin or a declaration, a definition leads to a declaration.  Builtins
are looked up in an index that is filled table after table, which finds what a search
through the tables would find first.  Unless it shows a builtin, a hover answers just
where a definition does, and shows the declaration to which that leads.
-/

namespace KontaktScript

namespace Tables

variable (name : String)

theorem Index.lookup_enter (index : Index) (builtin : Builtin) :
    (index.enter builtin).lookup name =
      (index.lookup name).or (if builtin.name = name then some builtin else none) := by
  rw [Index.enter]
  by_cases hname : builtin.name = name
  · subst hname
    rw [if_pos rfl]
    cases hlookup : index.lookup builtin.name with
    | some other => rw [Option.isSome_some, if_pos rfl, hlookup, Option.some_or]
    | none => simp
  · have hbeq : (name == builtin.name) = false := by simpa using Ne.symm hname
    rw [if_neg hname, Option.or_none]
    split_ifs
    · rfl
    · rw [List.lookup_cons, hbeq]

/-- Of builtins that are entered one after the other the first of a name is found. -/
theorem Index.lookup_foldl_enter (builtins : List Builtin) (index : Index) :
    (builtins.foldl Index.enter index).lookup name =
      (index.lookup name).or (builtins.find? (·.name = name)) := by
  induction builtins generalizing index with
  | nil => rw [List.foldl_nil, List.find?_nil, Option.or_none]
  | cons builtin builtins ih =>
      rw [List.foldl_cons, ih, Index.lookup_enter, Option.or_assoc, List.find?_cons]
      by_cases hname : builtin.name = name
      · rw [if_pos hname, decide_eq_true hname, Option.some_or]
      · rw [if_neg hname, decide_eq_false hname, Option.none_or]

/-- The index finds what a search through the tables finds. -/
theorem find?_eq (tables : Tables) :
    tables.find? name =
      (tables.commands ++ tables.vars ++ tables.controls).find? (·.name = name) :=
  Index.lookup_foldl_enter name tables.all []

end Tables

/-- The first of the entries with a name. -/
def IsFirstNamed (name : String) (builtin : Builtin) (entries : List Builtin) : Prop :=
  ∃ before behind, entries = before ++ builtin :: behind ∧ builtin.name = name ∧
    ∀ earlier ∈ before, earlier.name ≠ name

theorem find?_name_eq_some_iff {entries : List Builtin} {name : String} {builtin : Builtin} :
    entries.find? (·.name = name) = some builtin ↔ IsFirstNamed name builtin entries := by
  rw [List.find?_eq_some_iff_append, IsFirstNamed]
  simp only [decide_eq_true_eq, Bool.not_eq_true', decide_eq_false_iff_not]
  constructor
  · rintro ⟨hname, before, behind, hentries, hbefore⟩
    exact ⟨before, behind, hentries, hname, hbefore⟩
  · rintro ⟨before, behind, hentries, hname, hbefore⟩
    exact ⟨hname, before, behind, hentries, hbefore⟩

namespace Hover

variable {tables : Tables} {settings : Settings} {doc : Document} {position : Position}

def builtinAt? (tables : Tables) (settings : Settings) (doc : Document) (position : Position) :
    Option Builtin :=
  (identifierAt? doc position).bind fun token => builtin? tables settings token.text

theorem builtin?_eq_some_iff {identifier : String} {builtin : Builtin} :
    builtin? tables settings identifier = some builtin ↔
      settings.hoverBuiltins = true ∧
        IsFirstNamed identifier builtin (tables.commands ++ tables.vars ++ tables.controls) := by
  rw [builtin?, Option.ite_none_right_eq_some, Tables.find?_eq, find?_name_eq_some_iff]

theorem isSome_builtin?_iff {identifier : String} :
    (builtin? tables settings identifier).isSome = true ↔
      settings.hoverBuiltins = true ∧
        ∃ entry ∈ tables.commands ++ tables.vars ++ tables.controls,
          entry.name = identifier := by
  rw [builtin?]
  split_ifs with hshown
  · rw [Tables.find?_eq, List.find?_isSome]
    simp only [decide_eq_true_eq, hshown, true_and]
  · simp [hshown]

theorem isSome_builtinAt?_iff :
    (builtinAt? tables settings doc position).isSome = true ↔
      settings.hoverBuiltins = true ∧ ∃ token, identifierAt? doc position = some token ∧
        ∃ entry ∈ tables.commands ++ tables.vars ++ tables.controls,
          entry.name = token.text := by
  rw [builtinAt?]
  cases identifierAt? doc position with
  | none => simp
  | some token =>
      rw [Option.bind_some, isSome_builtin?_iff]
      simp only [Option.some.injEq, exists_eq_left']

theorem at?_of_token {token : Token} (htoken : identifierAt? doc position = some token) :
    Hover.at? tables settings doc position =
      (contents? tables settings doc token.text).map fun contents =>
        ⟨contents, doc.rangeOf token.span⟩ := by
  rw [Hover.at?, htoken, Option.map_eq_bind]
  rfl

theorem at?_of_builtin {token : Token} (htoken : identifierAt? doc position = some token)
    {builtin : Builtin} (hbuiltin : builtin? tables settings token.text = some builtin) :
    Hover.at? tables settings doc position =
      some ⟨ofBuiltin builtin, doc.rangeOf token.span⟩ := by
  rw [at?_of_token htoken, contents?, hbuiltin]
  rfl

/-- Where no builtin is shown, a hover shows what the identifier refers to. -/
theorem at?_of_no_builtin (hbuiltin : builtinAt? tables settings doc position = none) :
    Hover.at? tables settings doc position =
      (identifierAt? doc position).bind fun token =>
        (resolve? (declarations doc none) token.text).map fun declaration =>
          ⟨ofDeclaration declaration, doc.rangeOf token.span⟩ := by
  cases htoken : identifierAt? doc position with
  | none =>
      rw [Hover.at?, htoken]
      rfl
  | some token =>
      rw [builtinAt?, htoken, Option.bind_some] at hbuiltin
      rw [at?_of_token htoken, contents?, hbuiltin, Option.bind_some, Option.map_map]
      rfl

/-- Where no builtin is shown, a hover shows something just where a definition is found. -/
theorem isSome_at?_iff_of_no_builtin
    (hbuiltin : builtinAt? tables settings doc position = none) :
    (Hover.at? tables settings doc position).isSome = true ↔
      (declarationAt? doc position).isSome = true := by
  rw [at?_of_no_builtin hbuiltin, declarationAt?]
  cases identifierAt? doc position with
  | none => exact Iff.rfl
  | some token =>
      rw [Option.bind_some, Option.isSome_map]
      exact Iff.rfl

/-- Where a definition is found, a hover shows something, be it a builtin. -/
theorem isSome_at?_of_declarationAt? {declaration : Declaration}
    (hdeclaration : declarationAt? doc position = some declaration) :
    (Hover.at? tables settings doc position).isSome = true := by
  obtain ⟨token, htoken, hresolve⟩ := Option.bind_eq_some_iff.mp hdeclaration
  cases hbuiltin : builtin? tables settings token.text with
  | some builtin => rw [at?_of_builtin htoken hbuiltin, Option.isSome_some]
  | none => rw [at?_of_token htoken, contents?, hbuiltin, hresolve, Option.isSome_map,
      Option.isSome_map, Option.isSome_some]

end Hover

namespace Query

variable {tables : Tables} {settings : Settings} {doc : Document} {position : Position}

theorem answer_hover_of_at? (uri : Uri) {hover : Hover}
    (hhover : Hover.at? tables settings doc position = some hover) :
    (Query.hover uri position).answer tables settings doc = hover.toJson := by
  rw [Query.answer, hhover]
  rfl

theorem answer_hover_ne_null_iff (uri : Uri) :
    (Query.hover uri position).answer tables settings doc ≠ .null ↔
      (Hover.at? tables settings doc position).isSome = true := by
  rw [Query.answer]
  cases Hover.at? tables settings doc position with
  | none => simp
  | some hover => simp [Hover.toJson]

theorem answer_definition_ne_null_iff (uri : Uri) :
    (Query.definition uri position).answer tables settings doc ≠ .null ↔
      (declarationAt? doc position).isSome = true := by
  rw [Query.answer, Location.ofDefinition?]
  cases declarationAt? doc position with
  | none => simp
  | some declaration => simp [Location.toJson]

end Query

/-- A hover over an open script shows a builtin just if the settings have builtins shown and
the identifier at the position names one, and of several the first, commands before
variables before controls.  Otherwise it answers just where a definition does and shows
the declaration to which that leads.  So wherever a definition answers a hover does, under
any settings. -/
theorem hover_agrees_with_definition (tables : Tables) (state : State) {uri : Uri}
    {source : OpenDocument} (hopen : state.documents.get? uri = some source)
    (hksp : source.language = .ksp) (position : Position) :
    let doc := source.document
    let entries := tables.commands ++ tables.vars ++ tables.controls
    let shown := Hover.builtinAt? tables state.settings doc position
    let hover := state.answer tables (.hover uri position)
    let definition := state.answer tables (.definition uri position)
    (shown.isSome = true ↔
        state.settings.hoverBuiltins = true ∧ ∃ token, identifierAt? doc position = some token ∧
          ∃ entry ∈ entries, entry.name = token.text) ∧
      (∀ builtin, shown = some builtin →
        ∃ token, identifierAt? doc position = some token ∧
          IsFirstNamed token.text builtin entries ∧
          hover = (Hover.mk (Hover.ofBuiltin builtin) (doc.rangeOf token.span)).toJson ∧
          hover.IsHover ⟨Hover.ofBuiltin builtin, doc.rangeOf token.span⟩) ∧
      (shown = none →
        (hover ≠ .null ↔ definition ≠ .null) ∧
        (definition ≠ .null →
          ∃ token declaration, identifierAt? doc position = some token ∧
            resolve? (declarations doc none) token.text = some declaration ∧
            definition = (Location.mk uri (doc.rangeOf declaration.nameSpan)).toJson ∧
            definition.IsLocation ⟨uri, doc.rangeOf declaration.nameSpan⟩ ∧
            hover =
              (Hover.mk (Hover.ofDeclaration declaration) (doc.rangeOf token.span)).toJson ∧
            hover.IsHover ⟨Hover.ofDeclaration declaration, doc.rangeOf token.span⟩)) ∧
      (definition ≠ .null →
        ∀ settings, ({ state with settings } : State).answer tables (.hover uri position) ≠
          .null) := by
  intro doc entries shown hover definition
  have hhover : hover = (Query.hover uri position).answer tables state.settings doc :=
    State.answer_of_open tables hopen hksp
  have hdefinition :
      definition = (Query.definition uri position).answer tables state.settings doc :=
    State.answer_of_open tables hopen hksp
  rw [hhover, hdefinition]
  refine ⟨Hover.isSome_builtinAt?_iff, ?_, ?_, ?_⟩
  · intro builtin hshown
    obtain ⟨token, htoken, hbuiltin⟩ := Option.bind_eq_some_iff.mp hshown
    have hanswer := Query.answer_hover_of_at? uri (Hover.at?_of_builtin htoken hbuiltin)
    exact ⟨token, htoken, (Hover.builtin?_eq_some_iff.mp hbuiltin).2, hanswer,
      hanswer ▸ Hover.isHover_toJson _⟩
  · intro hshown
    rw [Query.answer_hover_ne_null_iff, Query.answer_definition_ne_null_iff]
    refine ⟨Hover.isSome_at?_iff_of_no_builtin hshown, ?_⟩
    intro hsome
    obtain ⟨declaration, hdeclaration⟩ := Option.isSome_iff_exists.mp hsome
    obtain ⟨token, htoken, hresolve⟩ := Option.bind_eq_some_iff.mp hdeclaration
    have hat : Hover.at? tables state.settings doc position =
        some ⟨Hover.ofDeclaration declaration, doc.rangeOf token.span⟩ := by
      rw [Hover.at?_of_no_builtin hshown, htoken, Option.bind_some, hresolve, Option.map_some]
    have hshows := Query.answer_hover_of_at? uri hat
    have hleads : (Query.definition uri position).answer tables state.settings doc = _ :=
      Query.answer_definition tables state.settings hdeclaration
    exact ⟨token, declaration, htoken, hresolve, hleads, hleads ▸ Location.isLocation_toJson _,
      hshows, hshows ▸ Hover.isHover_toJson _⟩
  · intro hne settings
    obtain ⟨declaration, hdeclaration⟩ :=
      Option.isSome_iff_exists.mp ((Query.answer_definition_ne_null_iff uri).mp hne)
    have hsame : ({ state with settings } : State).documents.get? uri = some source := hopen
    rw [State.answer_of_open tables hsame hksp]
    exact (Query.answer_hover_ne_null_iff uri).mpr
      (Hover.isSome_at?_of_declarationAt? hdeclaration)

/-- Two tables and the script have a `play`.  The command is shown, and without builtins
the function. -/
theorem hover_agrees_with_definition_on_shadowed_name :
    let tables : Tables := ⟨[⟨"play", "play()", "", "a"⟩], [⟨"play", "play", "", "b"⟩], []⟩
    let source : OpenDocument := ⟨.ofString "function play", .ksp, 1⟩
    let state (settings : Settings) : State := { State.start none false with
      documents := Store.empty.insert ⟨"file:///a.ksp"⟩ source, settings }
    let answer (settings : Settings) (query : Uri → Position → Query) :=
      (state settings).answer tables (query ⟨"file:///a.ksp"⟩ ⟨0, 13⟩)
    answer ⟨true, true⟩ .hover = (Hover.mk [.code "play()"] ⟨⟨0, 9⟩, ⟨0, 13⟩⟩).toJson ∧
      answer ⟨false, true⟩ .hover = (Hover.mk [.code "function play", .text "Function"]
        ⟨⟨0, 9⟩, ⟨0, 13⟩⟩).toJson ∧
      answer ⟨false, true⟩ .definition =
        (Location.mk ⟨"file:///a.ksp"⟩ ⟨⟨0, 9⟩, ⟨0, 13⟩⟩).toJson := by
  intro tables source state answer
  have hopen : ∀ settings, (state settings).documents.get? ⟨"file:///a.ksp"⟩ = some source := by
    intro settings
    simp [state, Store.get?_insert]
  have htoken : identifierAt? source.document ⟨0, 13⟩ = some ⟨"play", ⟨⟨0, 9⟩, ⟨0, 13⟩⟩⟩ := by
    decide +kernel
  have hspan : source.document.rangeOf ⟨⟨0, 9⟩, ⟨0, 13⟩⟩ = ⟨⟨0, 9⟩, ⟨0, 13⟩⟩ := by decide +kernel
  have hdeclared : (declarationAt? source.document ⟨0, 13⟩).map
      (fun d => (Hover.ofDeclaration d, source.document.rangeOf d.nameSpan)) =
        some ([.code "function play", .text "Function"], ⟨⟨0, 9⟩, ⟨0, 13⟩⟩) := by
    decide +kernel
  obtain ⟨declaration, hdeclaration, hparts⟩ := Option.map_eq_some_iff.mp hdeclared
  obtain ⟨hcontents, hrange⟩ := Prod.mk.inj hparts
  constructor
  · have hshown : Hover.builtinAt? tables ⟨true, true⟩ source.document ⟨0, 13⟩ =
        some ⟨"play", "play()", "", "a"⟩ := by
      decide +kernel
    obtain ⟨token, hsome, -, hhover, -⟩ := (hover_agrees_with_definition tables
      (state ⟨true, true⟩) (hopen _) rfl ⟨0, 13⟩).2.1 _ hshown
    rw [htoken] at hsome
    cases hsome
    rw [hspan] at hhover
    exact hhover
  · have hshown : Hover.builtinAt? tables ⟨false, true⟩ source.document ⟨0, 13⟩ = none := by
      decide +kernel
    have hfound : answer ⟨false, true⟩ .definition ≠ .null := by
      simp only [answer]
      rw [State.answer_of_open _ (hopen _) rfl, Query.answer_definition_ne_null_iff,
        hdeclaration]
      rfl
    obtain ⟨token, other, hsome, hresolve, hlocation, -, hhover, -⟩ :=
      ((hover_agrees_with_definition tables (state ⟨false, true⟩) (hopen _) rfl
        ⟨0, 13⟩).2.2.1 hshown).2 hfound
    obtain ⟨same, hsame, hother⟩ := Option.bind_eq_some_iff.mp hdeclaration
    rw [htoken] at hsome hsame
    cases hsome
    cases hsame
    rw [hresolve] at hother
    cases hother
    rw [hcontents, hspan] at hhover
    rw [hrange] at hlocation
    exact ⟨hhover, hlocation⟩

end KontaktScript

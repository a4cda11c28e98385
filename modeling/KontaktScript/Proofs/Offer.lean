import KontaktScript.Proofs.Completion
import Mathlib.Data.List.Induction

/-!
# What completion offers

The candidates on a line are the declarations above it that can be referred to and,
behind them, the builtins.  Of the candidates with one label the first is offered,
which is what entering them one after the other into a table in the order of entry
comes to.  A cursor further down is offered what one further up is, since scanning
more lines only adds candidates behind the earlier declarations.
-/

namespace KontaktScript

section Table

variable {α : Type} (key : α → String)

/-- Enters a value behind the others, unless its key is there. -/
def enter (table : List α) (value : α) : List α :=
  if table.any (key value == key ·) then table else table ++ [value]

/-- The value at a place, unless its key came before. -/
def firstAt? (values : List α) (place : Nat) : Option α :=
  values[place]?.filter fun value => (values.take place).all (key value != key ·)

/-- The value that is left of a key is the first of the key. -/
theorem find?_firstBy (values : List α) (label : String) :
    (firstBy key values).find? (key · = label) = values.find? (key · = label) := by
  induction values with
  | nil => rfl
  | cons value values ih =>
      rw [firstBy, List.find?_cons, List.find?_cons]
      by_cases hlabel : key value = label
      · rw [decide_eq_true hlabel]
      · have hkept : ((firstBy key values).filter (key · != key value)).find? (key · = label) =
            (firstBy key values).find? (key · = label) := by
          rw [List.find?_filter]
          apply List.find?_congr
          intro other _
          by_cases hsame : key other = label
          · have hother : label ≠ key value := fun heq => hlabel heq.symm
            simp [hsame, hother]
          · simp [hsame]
        rw [decide_eq_false hlabel]
        exact hkept.trans ih

theorem exists_mem_firstBy {values : List α} {value : α} (hmem : value ∈ values) :
    ∃ first ∈ firstBy key values, key first = key value := by
  have hsome : ((firstBy key values).find? (key · = key value)).isSome = true := by
    rw [find?_firstBy, List.find?_isSome]
    exact ⟨value, hmem, decide_eq_true rfl⟩
  obtain ⟨first, hfirst, hkey⟩ := List.find?_isSome.mp hsome
  exact ⟨first, hfirst, of_decide_eq_true hkey⟩

theorem find?_key_of_mem_firstBy {values : List α} {value : α}
    (hmem : value ∈ firstBy key values) : values.find? (key · = key value) = some value := by
  induction values with
  | nil => cases hmem
  | cons first values ih =>
      rcases List.mem_cons.mp hmem with rfl | hrest
      · exact List.find?_cons_of_pos (decide_eq_true rfl)
      · obtain ⟨hkept, hkey⟩ := List.mem_filter.mp hrest
        have hother : key first ≠ key value := (bne_iff_ne.mp hkey).symm
        rw [List.find?_cons, decide_eq_false hother]
        exact ih hkept

theorem pairwise_firstBy (values : List α) :
    (firstBy key values).Pairwise fun value other => key value ≠ key other := by
  induction values with
  | nil => exact List.Pairwise.nil
  | cons value values ih =>
      rw [firstBy, List.pairwise_cons]
      constructor
      · intro other hother
        exact (bne_iff_ne.mp (List.mem_filter.mp hother).2).symm
      · exact ih.filter _

theorem firstBy_sublist (values : List α) : (firstBy key values).Sublist values := by
  induction values with
  | nil => exact List.Sublist.refl []
  | cons value values ih =>
      rw [firstBy]
      exact (List.filter_sublist.trans ih).cons_cons value

theorem firstBy_isPrefix {values others : List α} (hstarts : values <+: others) :
    firstBy key values <+: firstBy key others := by
  obtain ⟨more, rfl⟩ := hstarts
  rw [firstBy_append]
  exact List.prefix_append _ _

theorem firstBy_concat (values : List α) (value : α) :
    firstBy key (values ++ [value]) =
      firstBy key values ++ [value].filter fun value => values.all (key value != key ·) :=
  firstBy_append key values [value]

theorem any_firstBy (values : List α) (label : String) :
    (firstBy key values).any (label == key ·) = values.any (label == key ·) := by
  rw [Bool.eq_iff_iff, List.any_eq_true, List.any_eq_true]
  constructor
  · rintro ⟨value, hmem, hkey⟩
    exact ⟨value, mem_of_mem_firstBy hmem, hkey⟩
  · rintro ⟨value, hmem, hkey⟩
    obtain ⟨first, hfirst, hsame⟩ := exists_mem_firstBy key hmem
    refine ⟨first, hfirst, ?_⟩
    rwa [hsame]

/-- Values that are entered one after the other leave the first of each key. -/
theorem foldl_enter (values : List α) : values.foldl (enter key) [] = firstBy key values := by
  induction values using List.reverseRecOn with
  | nil => rfl
  | append_singleton values value ih =>
      have hnew : values.all (key value != key ·) = !values.any (key value == key ·) :=
        List.not_any_eq_all_not.symm
      rw [List.foldl_concat, ih, enter, any_firstBy, firstBy_concat, List.filter_singleton, hnew]
      cases values.any (key value == key ·) with
      | true => exact (List.append_nil _).symm
      | false => rfl

/-- The values that are left are those at the places before which their keys do not
come. -/
theorem firstBy_eq_filterMap (values : List α) :
    firstBy key values = (List.range values.length).filterMap (firstAt? key values) := by
  induction values using List.reverseRecOn with
  | nil => rfl
  | append_singleton values value ih =>
      have hbefore : ∀ place ∈ List.range values.length,
          firstAt? key (values ++ [value]) place = firstAt? key values place := by
        intro place hplace
        have hlt := List.mem_range.mp hplace
        rw [firstAt?, firstAt?, List.getElem?_append_left hlt,
          List.take_append_of_le_length (Nat.le_of_lt hlt)]
      have hlast : firstAt? key (values ++ [value]) values.length =
          if values.all (key value != key ·) then some value else none := by
        rw [firstAt?, List.getElem?_concat_length, List.take_left, Option.filter_some]
      rw [firstBy_concat, ih, List.length_append, List.length_singleton, List.range_succ,
        List.filterMap_append, List.filterMap_congr hbefore, List.filterMap_cons, hlast,
        List.filter_singleton]
      cases values.all (key value != key ·) with
      | true => rfl
      | false => rfl

end Table

section Candidates

variable (tables : Tables) (doc : Document)

theorem candidates_eq (line : Nat) (builtins : Bool) :
    CompletionItem.candidates tables doc line builtins =
      (((List.range (min line doc.lineCount)).filterMap (placedAt doc)).filter
        (!·.isCallback)).map CompletionItem.ofDeclaration ++
      if builtins then
        tables.commands.map (CompletionItem.ofBuiltin .routine) ++
          tables.vars.map (CompletionItem.ofBuiltin .var)
      else [] := by
  rw [CompletionItem.candidates, CompletionItem.ofDeclarations, declarations_eq_filterMap]
  rfl

/-- A declaration is labelled as it is written and a builtin with its name. -/
theorem map_label_candidates (line : Nat) (builtins : Bool) :
    (CompletionItem.candidates tables doc line builtins).map (·.label) =
      (((List.range (min line doc.lineCount)).filterMap (placedAt doc)).filter
        (!·.isCallback)).map (·.written) ++
      if builtins then (tables.commands ++ tables.vars).map (·.name) else [] := by
  rw [candidates_eq, List.map_append, List.map_map]
  cases builtins with
  | false => rfl
  | true =>
      simp only [if_true, List.map_append, List.map_map]
      rfl

theorem completions_eq_firstBy (line : Nat) (builtins : Bool) :
    completions tables doc line builtins =
      firstBy CompletionItem.label (CompletionItem.candidates tables doc line builtins) :=
  CompletionItem.firstOfLabel_eq _

/-- The candidates of a line further down start with the declarations above a line
further up. -/
theorem ofDeclarations_isPrefix {line later : Nat} (hle : line ≤ later) :
    CompletionItem.ofDeclarations doc line <+: CompletionItem.ofDeclarations doc later :=
  ((declarations_isPrefix doc hle).filter _).map _

theorem candidates_subset {line later : Nat} (hle : line ≤ later) (builtins : Bool) :
    CompletionItem.candidates tables doc line builtins ⊆
      CompletionItem.candidates tables doc later builtins := by
  intro candidate hmem
  rw [CompletionItem.candidates, List.mem_append] at hmem ⊢
  exact hmem.imp_left fun hdeclared => (ofDeclarations_isPrefix doc hle).subset hdeclared

/-- A label that a declaration and a builtin bear is the declaration's. -/
theorem find?_label_append {declared : List Declaration} (others : List CompletionItem)
    {declaration : Declaration} (hmem : declaration ∈ declared) :
    (declared.map CompletionItem.ofDeclaration ++ others).find?
        (·.label = declaration.written) =
      (declared.find? (·.written = declaration.written)).map CompletionItem.ofDeclaration := by
  have hsome : (declared.find? (·.written = declaration.written)).isSome = true :=
    List.find?_isSome.mpr ⟨declaration, hmem, decide_eq_true rfl⟩
  obtain ⟨first, hfirst⟩ := Option.isSome_iff_exists.mp hsome
  have hdeclared : (declared.map CompletionItem.ofDeclaration).find?
      (·.label = declaration.written) =
        (declared.find? (·.written = declaration.written)).map CompletionItem.ofDeclaration :=
    List.find?_map
  rw [List.find?_append, hdeclared, hfirst, Option.map_some, Option.some_or]

end Candidates

/-- Completion offers the first candidate of each label.  The candidates are the
declarations on the lines above that are no callbacks, and behind them the builtins if
they are wanted.  A candidate is offered just if its label does not come before, which is
what entering the candidates into a table in the order of entry comes to: labels are
distinct, none is lost, the order is kept, and an item that is labelled like a declaration
is made from the first such declaration.  On a line further down the declarations that
were offered come first, and no label is missing.  The answer to a query lists what is
offered on the line asked about. -/
theorem completions_are_first_candidates (tables : Tables) (doc : Document) :
    (∀ (line : Nat) (builtins : Bool),
      let declared :=
        ((List.range (min line doc.lineCount)).filterMap (placedAt doc)).filter (!·.isCallback)
      let listed :=
        tables.commands.map (CompletionItem.ofBuiltin .routine) ++
          tables.vars.map (CompletionItem.ofBuiltin .var)
      let candidates :=
        declared.map CompletionItem.ofDeclaration ++ if builtins then listed else []
      let items := completions tables doc line builtins
      candidates.map (·.label) =
          declared.map (·.written) ++
            (if builtins then (tables.commands ++ tables.vars).map (·.name) else []) ∧
        items =
          (List.range candidates.length).filterMap (firstAt? CompletionItem.label candidates) ∧
        items = candidates.foldl (enter CompletionItem.label) [] ∧
        items.Pairwise (fun item other => item.label ≠ other.label) ∧
        items.Sublist candidates ∧
        (∀ candidate ∈ candidates, ∃ item ∈ items, item.label = candidate.label) ∧
        (∀ item ∈ items, candidates.find? (·.label = item.label) = some item) ∧
        ∀ declaration ∈ declared, ∀ item ∈ items, item.label = declaration.written →
          ∃ first, declared.find? (·.written = declaration.written) = some first ∧
            item = CompletionItem.ofDeclaration first) ∧
      (∀ line later, line ≤ later →
        completions tables doc line false <+: completions tables doc later false ∧
          ∀ item ∈ completions tables doc line true,
            ∃ other ∈ completions tables doc later true, other.label = item.label) ∧
      ∀ (settings : Settings) (uri : Uri) (position : Position),
        let line := (doc.pointOf position).line.toNat
        ∃ shown,
          (Query.completion uri position).answer tables settings doc = .array shown ∧
          List.Forall₂ Json.IsCompletionItem shown
            (completions tables doc line settings.completeBuiltins) := by
  refine ⟨?_, ?_, ?_⟩
  · intro line builtins declared listed candidates items
    have hcandidates : CompletionItem.candidates tables doc line builtins = candidates :=
      candidates_eq tables doc line builtins
    have hitems : items = firstBy CompletionItem.label candidates := by
      rw [← hcandidates]
      exact completions_eq_firstBy tables doc line builtins
    have hfirst : ∀ item ∈ items, candidates.find? (·.label = item.label) = some item := by
      intro item hitem
      rw [hitems] at hitem
      exact find?_key_of_mem_firstBy _ hitem
    refine ⟨?_, hitems.trans (firstBy_eq_filterMap _ _), hitems.trans (foldl_enter _ _).symm,
      ?_, ?_, ?_, hfirst, ?_⟩
    · rw [← hcandidates]
      exact map_label_candidates tables doc line builtins
    · rw [hitems]
      exact pairwise_firstBy _ _
    · rw [hitems]
      exact firstBy_sublist _ _
    · intro candidate hmem
      rw [hitems]
      exact exists_mem_firstBy _ hmem
    · intro declaration hmem item hitem hlabel
      have hfound := hfirst item hitem
      rw [hlabel, find?_label_append _ hmem] at hfound
      obtain ⟨first, hdeclared, hitem⟩ := Option.map_eq_some_iff.mp hfound
      exact ⟨first, hdeclared, hitem.symm⟩
  · intro line later hle
    constructor
    · rw [completions_eq_firstBy, completions_eq_firstBy]
      apply firstBy_isPrefix
      rw [CompletionItem.candidates, CompletionItem.candidates]
      simpa using ofDeclarations_isPrefix doc hle
    · intro item hitem
      rw [completions_eq_firstBy] at hitem ⊢
      exact exists_mem_firstBy _ (candidates_subset tables doc hle true (mem_of_mem_firstBy hitem))
  · intro settings uri position line
    exact ⟨_, rfl, forall₂_map_self CompletionItem.isCompletionItem_toJson _⟩

/-- A function that hides a command on the lines below it, and a variable that is declared
twice and hides one of the engine. -/
theorem completions_are_first_candidates_hiding_builtins :
    let doc := Document.ofString "declare $n\nfunction wait\non init\ndeclare $n := 1"
    let tables : Tables :=
      { commands := [⟨"wait", "wait(time)", "", "time"⟩, ⟨"exit", "exit", "", "control"⟩]
        vars := [⟨"$n", "$n", "", "engine"⟩, ⟨"$m", "$m", "", "engine"⟩]
        controls := [] }
    (completions tables doc 1 true).map (fun item => (item.label, item.group)) =
        [("$n", none), ("wait", some "time"), ("exit", some "control"), ("$m", some "engine")] ∧
      (completions tables doc 4 true).map (fun item => (item.label, item.group)) =
        [("$n", none), ("wait", none), ("exit", some "control"), ("$m", some "engine")] ∧
      (∀ item ∈ completions tables doc 4 true, item.label = "wait" → item.detail = "Function") ∧
      completions tables doc 1 false <+: completions tables doc 4 false ∧
      ∀ item ∈ completions tables doc 1 true,
        ∃ other ∈ completions tables doc 4 true, other.label = item.label := by
  intro doc tables
  obtain ⟨hrule, hlater, -⟩ := completions_are_first_candidates tables doc
  obtain ⟨-, -, habove, -⟩ := hrule 1 true
  obtain ⟨-, -, hbelow, -, -, -, -, hhides⟩ := hrule 4 true
  refine ⟨?_, ?_, ?_, hlater 1 4 (by decide)⟩
  · rw [habove]
    decide +kernel
  · rw [hbelow]
    decide +kernel
  · intro item hitem hlabel
    have hfunction : ((((List.range (min 4 doc.lineCount)).filterMap (placedAt doc)).filter
        (!·.isCallback)).find? (·.written = "wait")).map (·.container) = some "Function" := by
      decide +kernel
    obtain ⟨function, hfound, hcontainer⟩ := Option.map_eq_some_iff.mp hfunction
    have hlike := List.find?_some hfound
    have hwritten : function.written = "wait" := of_decide_eq_true hlike
    obtain ⟨first, hfirst, rfl⟩ := hhides function (List.mem_of_find?_eq_some hfound) item hitem
      (hlabel.trans hwritten.symm)
    rw [hwritten, hfound] at hfirst
    cases hfirst
    exact hcontainer

end KontaktScript

import KontaktScript.Feature.Completion
import KontaktScript.Proofs.Resolution

/-!
# Completion agrees with definition

Completion scans the lines above the cursor, leaves callbacks out and offers the
first of several declarations that are written alike.  A definition is looked up
among all declarations of the document, callbacks included.  The two agree on every
variable that is offered.  They agree on a function unless a callback of its name
is declared above it, which is then what the name refers to.
-/

namespace KontaktScript

def firstBy {α : Type} (key : α → String) : List α → List α
  | [] => []
  | value :: values => value :: (firstBy key values).filter (key · != key value)

section FirstBy

variable {α β : Type}

theorem CompletionItem.firstOfLabel_eq (items : List CompletionItem) :
    firstOfLabel items = firstBy label items := by
  induction items with
  | nil => rfl
  | cons item items ih => rw [firstOfLabel, firstBy, ih]

theorem firstBy_map (key : β → String) (f : α → β) (values : List α) :
    firstBy key (values.map f) = (firstBy (key ∘ f) values).map f := by
  induction values with
  | nil => rfl
  | cons value values ih =>
      rw [List.map_cons, firstBy, ih, List.filter_map]
      rfl

/-- Of later values those are left whose keys come neither among themselves nor among
the earlier ones before. -/
theorem firstBy_append (key : α → String) (values others : List α) :
    firstBy key (values ++ others) =
      firstBy key values ++
        (firstBy key others).filter fun other => values.all (key other != key ·) := by
  induction values with
  | nil =>
      rw [List.nil_append, firstBy, List.nil_append]
      exact (List.filter_eq_self.mpr fun _ _ => rfl).symm
  | cons value values ih =>
      rw [List.cons_append, firstBy, ih, List.filter_append, List.filter_filter, firstBy,
        List.cons_append]
      rfl

theorem mem_of_mem_firstBy {key : α → String} {values : List α} {value : α}
    (hmem : value ∈ firstBy key values) : value ∈ values := by
  induction values with
  | nil => exact hmem
  | cons first values ih =>
      rcases List.mem_cons.mp hmem with rfl | hrest
      · exact List.mem_cons_self
      · exact List.mem_cons_of_mem first (ih (List.mem_filter.mp hrest).1)

/-- Of numbered values one that is left has a number before which its key does not
come. -/
theorem exists_first_of_mem_firstBy {key : α → String} {f : Nat → Option α} {count : Nat}
    {value : α} (hmem : value ∈ firstBy key ((List.range count).filterMap f)) :
    ∃ i < count, f i = some value ∧
      ∀ other ∈ (List.range i).filterMap f, key other ≠ key value := by
  induction count with
  | zero => cases hmem
  | succ count ih =>
      rw [List.range_succ, List.filterMap_append, firstBy_append, List.mem_append,
        List.mem_filter] at hmem
      rcases hmem with hbefore | ⟨hlast, hnew⟩
      · obtain ⟨i, hi, hvalue, hfirst⟩ := ih hbefore
        exact ⟨i, Nat.lt_succ_of_lt hi, hvalue, hfirst⟩
      · have hvalue : f count = some value := by
          simpa using mem_of_mem_firstBy hlast
        refine ⟨count, Nat.lt_succ_self count, hvalue, ?_⟩
        intro other hother
        have hkey := List.all_eq_true.mp hnew other hother
        exact fun heq => bne_iff_ne.mp hkey heq.symm

end FirstBy

/-- The declarations that are offered on a line: of those above it that can be
referred to, the first of each written name. -/
def offered (doc : Document) (line : Nat) : List Declaration :=
  firstBy Declaration.written ((declarations doc (some line)).filter fun d => !d.isCallback)

/-- The items on a line are made from the declarations that are offered, and behind
them from builtins. -/
theorem exists_completions_eq_append (tables : Tables) (doc : Document) (line : Nat)
    (builtins : Bool) :
    ∃ others,
      completions tables doc line builtins =
          (offered doc line).map CompletionItem.ofDeclaration ++ others ∧
        ∀ item ∈ others, ∃ role, ∃ builtin ∈ tables.commands ++ tables.vars,
          item = CompletionItem.ofBuiltin role builtin := by
  rw [completions, CompletionItem.candidates, CompletionItem.firstOfLabel_eq, firstBy_append]
  refine ⟨_, congrArg (· ++ _) (firstBy_map _ _ _), ?_⟩
  intro item hitem
  have hlisted := mem_of_mem_firstBy (List.mem_filter.mp hitem).1
  cases builtins with
  | false => cases hlisted
  | true =>
      rcases List.mem_append.mp hlisted with hcommand | hvar
      · obtain ⟨builtin, hbuiltin, rfl⟩ := List.mem_map.mp hcommand
        exact ⟨_, builtin, List.mem_append_left _ hbuiltin, rfl⟩
      · obtain ⟨builtin, hbuiltin, rfl⟩ := List.mem_map.mp hvar
        exact ⟨_, builtin, List.mem_append_right _ hbuiltin, rfl⟩

/-- A declaration that is offered stands on a line above the cursor's, above which
only callbacks may be written like it. -/
structure OfferedAt (doc : Document) (line i : Nat) (declaration : Declaration) : Prop where
  lt_line : i < line
  lt_lineCount : i < doc.lineCount
  placedAt_eq : placedAt doc i = some declaration
  not_isCallback : declaration.isCallback = false
  first : ∀ d ∈ declarations doc (some i),
    d.isCallback = true ∨ d.written ≠ declaration.written

theorem exists_offeredAt_of_mem {doc : Document} {line : Nat} {declaration : Declaration}
    (hmem : declaration ∈ offered doc line) : ∃ i, OfferedAt doc line i declaration := by
  rw [offered, declarations_eq_filterMap, List.filter_filterMap] at hmem
  obtain ⟨i, hi, hplaced, hfirst⟩ := exists_first_of_mem_firstBy hmem
  obtain ⟨hplaced, hcallback⟩ := Option.filter_eq_some_iff.mp hplaced
  have hlines : i < line ∧ i < doc.lineCount := Nat.lt_min.mp hi
  refine ⟨i, hlines.1, hlines.2, hplaced, by simpa using hcallback, ?_⟩
  intro d hd
  have hscanned : scannedLines doc (some i) = i := Nat.min_eq_left (Nat.le_of_lt hlines.2)
  rw [declarations_eq_filterMap, hscanned] at hd
  by_cases hd' : d.isCallback = true
  · exact .inl hd'
  · right
    apply hfirst
    rw [← List.filter_filterMap]
    exact List.mem_filter.mpr ⟨hd, by simpa using hd'⟩

/-- The declarations of a text are those above a line, the one on it and those
below. -/
theorem exists_declarations_eq_append_cons {σ : Type} [LineSource σ] {source : σ} {i : Nat}
    (hi : i < LineSource.lineCount source) {declaration : Declaration}
    (hplaced : placedAt source i = some declaration) :
    ∃ below, declarations source none =
      declarations source (some i) ++ declaration :: below := by
  have hscanned : scannedLines source (some i) = i := Nat.min_eq_left (Nat.le_of_lt hi)
  obtain ⟨rest, hrest⟩ := Nat.exists_eq_succ_of_ne_zero (Nat.sub_ne_zero_of_lt hi)
  have hsplit := declarations_none_eq_append source i
  simp only [hscanned, hrest] at hsplit
  rw [List.range_succ_eq_map, List.map_cons, Nat.add_zero,
    List.filterMap_cons_some hplaced] at hsplit
  exact ⟨_, hsplit⟩

/-- The written name of a declaration above which only callbacks are written like it
refers to the first of these, and if there is none to the declaration. -/
theorem resolve?_append_cons {above below : List Declaration} {declaration : Declaration}
    (hproper : ∀ d ∈ above ++ declaration :: below, d.IsProper)
    (hfirst : ∀ d ∈ above, d.isCallback = true ∨ d.written ≠ declaration.written) :
    resolve? (above ++ declaration :: below) declaration.written =
      (above.find? fun d => d.isCallback && d.written = declaration.written).or
        (some declaration) := by
  have habove : (above.find? fun d => d.written = declaration.written) =
      above.find? fun d => d.isCallback && d.written = declaration.written := by
    apply List.find?_congr
    intro d hd
    rcases hfirst d hd with hcallback | hwritten
    · rw [hcallback, Bool.true_and]
    · simp [hwritten]
  have hself : ((declaration :: below).find? fun d => d.written = declaration.written) =
      some declaration :=
    List.find?_cons_of_pos (decide_eq_true rfl)
  rw [resolve?_eq_or hproper, List.find?_append, habove, hself]
  cases above.find? fun d => d.isCallback && d.written = declaration.written with
  | none => rfl
  | some callback => rfl

section Offered

variable {doc : Document} {line i : Nat} {declaration : Declaration}

namespace OfferedAt

theorem isProper (hoffered : OfferedAt doc line i declaration) : declaration.IsProper :=
  Declaration.isProper_of_placedAt hoffered.placedAt_eq

theorem isVariable_or_isFunction (hoffered : OfferedAt doc line i declaration) :
    declaration.isVariable = true ∨ declaration.isFunction = true := by
  apply hoffered.isProper.isVariable_or_isRoutine.imp_right
  intro hroutine
  apply hroutine.resolve_left
  rw [hoffered.not_isCallback]
  exact Bool.false_ne_true

/-- The label of an offered declaration refers to the first callback above that is
written like it, and if there is none to the declaration. -/
theorem resolve?_written_eq (hoffered : OfferedAt doc line i declaration) :
    resolve? (declarations doc none) declaration.written =
      ((declarations doc (some i)).find? fun d =>
        d.isCallback && d.written = declaration.written).or (some declaration) := by
  obtain ⟨below, hsplit⟩ :=
    exists_declarations_eq_append_cons hoffered.lt_lineCount hoffered.placedAt_eq
  rw [hsplit]
  apply resolve?_append_cons
  · rw [← hsplit]
    exact fun d hd => Declaration.isProper_of_mem hd
  · exact hoffered.first

theorem resolve?_variable (hoffered : OfferedAt doc line i declaration)
    (hvariable : declaration.isVariable = true) :
    resolve? (declarations doc none) declaration.written = some declaration := by
  obtain ⟨type, htype⟩ := Declaration.exists_kind_of_isVariable hvariable
  have hsplit := Declaration.splitSigil?_written htype hoffered.isProper.name_eq
  have hnone : ((declarations doc (some i)).find? fun d =>
      d.isCallback && d.written = declaration.written) = none := by
    rw [List.find?_eq_none]
    intro d hd hlike
    rw [Bool.and_eq_true, decide_eq_true_eq] at hlike
    have hkind :=
      (((Declaration.isProper_of_mem hd).written_eq_iff_of_sigil hsplit).mp hlike.2).1
    have hcallback := hlike.1
    rw [Declaration.isCallback, hkind] at hcallback
    cases hcallback
  rw [hoffered.resolve?_written_eq, hnone, Option.none_or]

theorem resolve?_function (hoffered : OfferedAt doc line i declaration)
    (hfunction : declaration.isFunction = true) :
    resolve? (declarations doc none) declaration.written =
      ((declarations doc (some i)).find? fun d =>
        d.isCallback && d.name = declaration.name).or (some declaration) := by
  have hwritten := Declaration.written_of_not_isVariable
    (Declaration.not_isVariable_of_routine (.inr hfunction)) hoffered.isProper.name_eq
  have hnamed : ((declarations doc (some i)).find? fun d =>
      d.isCallback && d.written = declaration.written) =
        (declarations doc (some i)).find? fun d =>
          d.isCallback && d.name = declaration.name := by
    apply List.find?_congr
    intro d hd
    cases hcallback : d.isCallback with
    | false => rfl
    | true =>
        rw [Declaration.written_of_not_isVariable
          (Declaration.not_isVariable_of_routine (.inl hcallback))
          (Declaration.isProper_of_mem hd).name_eq, hwritten]
  rw [hoffered.resolve?_written_eq, hnamed]

theorem resolve?_function_eq_self_iff (hoffered : OfferedAt doc line i declaration)
    (hfunction : declaration.isFunction = true) :
    resolve? (declarations doc none) declaration.written = some declaration ↔
      ∀ d ∈ declarations doc (some i), d.isCallback = true → d.name ≠ declaration.name := by
  rw [hoffered.resolve?_function hfunction]
  cases hcallback : (declarations doc (some i)).find? fun d =>
      d.isCallback && d.name = declaration.name with
  | none =>
      apply iff_of_true rfl
      intro d hd hroutine hname
      have hunfit := List.find?_eq_none.mp hcallback d hd
      exact hunfit (by simp [hroutine, hname])
  | some callback =>
      obtain ⟨hroutine, hname⟩ :
          callback.isCallback = true ∧ callback.name = declaration.name := by
        simpa using List.find?_some hcallback
      apply iff_of_false
      · intro hsame
        cases hsame
        rw [hoffered.not_isCallback] at hroutine
        cases hroutine
      · intro hnone
        exact hnone callback (List.mem_of_find?_eq_some hcallback) hroutine hname

end OfferedAt

end Offered

/-- Completion agrees with definition.  The items on a line that are not made from
builtins are made from the declarations that are offered, in order.  Each of these
stands on a line above, and the label of a variable's item refers to the very
declaration.  The label of a function's item refers to the function just if no
callback of its name stands above it, and otherwise to the first such callback. -/
theorem completion_agrees_with_definition (tables : Tables) (doc : Document) (line : Nat)
    (builtins : Bool) :
    let found := declarations doc none
    (∃ others,
      completions tables doc line builtins =
          (offered doc line).map CompletionItem.ofDeclaration ++ others ∧
        ∀ item ∈ others, ∃ role, ∃ builtin ∈ tables.commands ++ tables.vars,
          item = CompletionItem.ofBuiltin role builtin) ∧
      ∀ declaration ∈ offered doc line, ∃ i,
        OfferedAt doc line i declaration ∧
        let item := CompletionItem.ofDeclaration declaration
        let above := declarations doc (some i)
        let callback? := above.find? fun d => d.isCallback && d.name = declaration.name
        item.detail = declaration.container ∧
        (declaration.isVariable = true ∨ declaration.isFunction = true) ∧
        (declaration.isVariable = true → resolve? found item.label = some declaration) ∧
        (declaration.isFunction = true →
          (resolve? found item.label = some declaration ↔
            ∀ d ∈ above, d.isCallback = true → d.name ≠ declaration.name) ∧
          ∀ callback, callback? = some callback → resolve? found item.label = some callback) := by
  intro found
  refine ⟨exists_completions_eq_append tables doc line builtins, ?_⟩
  intro declaration hmem
  obtain ⟨i, hoffered⟩ := exists_offeredAt_of_mem hmem
  refine ⟨i, hoffered, rfl, hoffered.isVariable_or_isFunction, hoffered.resolve?_variable, ?_⟩
  intro hfunction
  refine ⟨hoffered.resolve?_function_eq_self_iff hfunction, ?_⟩
  intro callback hcallback
  have hresolve := hoffered.resolve?_function hfunction
  rwa [hcallback, Option.some_or] at hresolve

/-- A function below a callback of its name, and a variable of that name. -/
theorem completion_agrees_with_definition_but_callback :
    let doc := Document.ofString "on f\nfunction f\ndeclare $f\ndeclare $f := 1"
    let found := declarations doc none
    (completions ⟨[], [], []⟩ doc 4 true).map (·.label) = ["f", "$f"] ∧
      (∃ function ∈ offered doc 4, ∃ callback,
        function.written = "f" ∧ function.location.line = 1 ∧
        resolve? found "f" = some callback ∧ callback.location.line = 0) ∧
      ∃ declared ∈ offered doc 4,
        declared.written = "$f" ∧ declared.location.line = 2 ∧
        resolve? found "$f" = some declared := by
  intro doc found
  have hoffered : (offered doc 4).map (fun d => (d.written, d.name, d.location.line, d.kind)) =
      [("f", "f", 1, .function), ("$f", "f", 2, .var .integer)] := by
    decide +kernel
  obtain ⟨function, others, hcons, hfunction, hothers⟩ := List.map_eq_cons_iff.mp hoffered
  obtain ⟨declared, rest, rfl, hdeclared, -⟩ := List.map_eq_cons_iff.mp hothers
  simp only [Prod.mk.injEq] at hfunction hdeclared
  obtain ⟨hwritten, hname, hline, hkind⟩ := hfunction
  obtain ⟨-, hagrees⟩ := completion_agrees_with_definition ⟨[], [], []⟩ doc 4 true
  rw [hcons] at hagrees ⊢
  refine ⟨by decide +kernel, ⟨function, by simp, ?_⟩, declared, by simp, hdeclared.1,
    hdeclared.2.2.1, ?_⟩
  · obtain ⟨i, hplace, -, -, -, hresolve⟩ := hagrees function (by simp)
    have hi : i = 1 := by
      have hnumber := toNat_line_of_placedAt doc hplace.placedAt_eq
        (Nat.lt_of_lt_of_le hplace.lt_line (by decide))
      rw [hline] at hnumber
      exact hnumber.symm
    subst hi
    have hcallback : ((declarations doc (some 1)).find? fun d =>
        d.isCallback && d.name = "f").map (·.location.line) = some 0 := by
      decide +kernel
    obtain ⟨callback, hfirst, hzero⟩ := Option.map_eq_some_iff.mp hcallback
    rw [← hname] at hfirst
    have hlabel := (hresolve (by rw [Declaration.isFunction, hkind]; rfl)).2 callback hfirst
    rw [CompletionItem.ofDeclaration, hwritten] at hlabel
    exact ⟨callback, hwritten, hline, hlabel, hzero⟩
  · obtain ⟨i, -, -, -, hresolve, -⟩ := hagrees declared (by simp)
    have hlabel := hresolve (by rw [Declaration.isVariable, hdeclared.2.2.2]; rfl)
    rwa [CompletionItem.ofDeclaration, hdeclared.1] at hlabel

end KontaktScript

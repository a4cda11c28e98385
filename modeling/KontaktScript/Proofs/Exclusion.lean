import KontaktScript.Proofs.Form

/-!
# One form to a line

The three forms of declarations are tried one after the other, and the first that a
line has counts.  Yet each form has a keyword of its own, and the first word of a
line is at most one of these.  So no line has two forms, and in whatever order they
are tried a scan finds the same.
-/

namespace KontaktScript

open Text

/-- The grammars of the three forms. -/
inductive Grammar where
  | var
  | callback
  | function
  deriving DecidableEq, Repr

namespace Grammar

def keyword : Grammar → String
  | var => "declare"
  | callback => "on"
  | function => "function"

def pattern : Grammar → Pattern
  | var => VariableForm.pattern
  | callback => CallbackForm.pattern
  | function => FunctionForm.pattern

/-- What a line declares by one grammar, if it has that form, and the bindings below
it. -/
def declare? (grammar : Grammar) (bindings : Bindings) (number : UInt32) (line : Line) :
    Option (Declaration × Bindings) :=
  let start := grammar.pattern.keywordColumn line
  match grammar with
  | var => (VariableForm.read? line).map fun form =>
      (.onLine number line start form.attributes, form.bind bindings)
  | callback => (CallbackForm.read? line).map fun form =>
      (.onLine number line start (form.attributes bindings), bindings)
  | function => (FunctionForm.read? line).map fun form =>
      (.onLine number line start form.attributes, bindings)

theorem isName_keyword (grammar : Grammar) : IsName grammar.keyword.toList := by
  cases grammar with
  | var => exact isName_declare
  | callback => exact isName_on
  | function => exact isName_function

theorem keyword_injective {grammar other : Grammar} (hkeyword : grammar.keyword = other.keyword) :
    grammar = other := by
  revert hkeyword
  cases grammar <;> cases other <;> decide

variable {grammar other : Grammar} {bindings others : Bindings} {number : UInt32} {line : Line}
  {found : Declaration × Bindings}

/-- A line that a grammar accepts starts with the keyword of that grammar. -/
theorem exists_keywordCut_of_declare?
    (hfound : grammar.declare? bindings number line = some found) :
    ∃ indent gap rest, KeywordCut grammar.keyword line indent gap rest := by
  cases grammar with
  | var =>
      obtain ⟨form, hform, -⟩ := Option.map_eq_some_iff.mp hfound
      obtain ⟨indent, gap, qualifier, space, rest, hcut, -⟩ :=
        VariableForm.read?_eq_some_iff.mp hform
      exact ⟨indent, gap, _, hcut.toKeywordCut⟩
  | callback =>
      obtain ⟨form, hform, -⟩ := Option.map_eq_some_iff.mp hfound
      obtain ⟨indent, gap, rest, hcut, -⟩ := CallbackForm.read?_eq_some_iff.mp hform
      exact ⟨indent, gap, _, hcut.toKeywordCut⟩
  | function =>
      obtain ⟨form, hform, -⟩ := Option.map_eq_some_iff.mp hfound
      obtain ⟨indent, gap, rest, hcut⟩ := FunctionForm.read?_eq_some_iff.mp hform
      exact ⟨indent, gap, _, hcut.toKeywordCut⟩

theorem eq_of_isSome_declare? (hgrammar : (grammar.declare? bindings number line).isSome = true)
    (hother : (other.declare? others number line).isSome = true) : grammar = other := by
  obtain ⟨left, hleft⟩ := Option.isSome_iff_exists.mp hgrammar
  obtain ⟨right, hright⟩ := Option.isSome_iff_exists.mp hother
  obtain ⟨_, _, _, hcut⟩ := exists_keywordCut_of_declare? hleft
  obtain ⟨_, _, _, hcut'⟩ := exists_keywordCut_of_declare? hright
  apply keyword_injective
  exact hcut.keyword_unique grammar.isName_keyword other.isName_keyword hcut'

/-- Wherever a grammar that accepts the line stands in an order, it is the one that
counts. -/
theorem findSome?_declare? {order : List Grammar} (hmem : grammar ∈ order)
    (hfound : grammar.declare? bindings number line = some found) :
    (order.findSome? fun tried => tried.declare? bindings number line) = some found := by
  have haccepts : (grammar.declare? bindings number line).isSome = true := by
    rw [hfound, Option.isSome_some]
  have hsome : (order.findSome? fun tried =>
      tried.declare? bindings number line).isSome = true :=
    List.findSome?_isSome_iff.mpr ⟨grammar, hmem, haccepts⟩
  obtain ⟨first, hfirst⟩ := Option.isSome_iff_exists.mp hsome
  obtain ⟨tried, -, htried⟩ := List.exists_of_findSome?_eq_some hfirst
  have hcounts : (tried.declare? bindings number line).isSome = true := by
    rw [htried, Option.isSome_some]
  rw [hfirst, ← htried, eq_of_isSome_declare? hcounts haccepts, hfound]

end Grammar

namespace Declaration

/-- The declaration on a line, if there is one, and the bindings below it, with the
grammars tried in an order. -/
def ofLineBy (order : List Grammar) (bindings : Bindings) (number : UInt32) (line : Line) :
    Option Declaration × Bindings :=
  (order.findSome? fun grammar => grammar.declare? bindings number line).elim (none, bindings)
    fun found => (some found.1, found.2)

variable {bindings : Bindings} {number : UInt32} {line : Line}

theorem ofLineBy_of_declare? {order : List Grammar} {grammar : Grammar} (hmem : grammar ∈ order)
    {found : Declaration × Bindings}
    (hfound : grammar.declare? bindings number line = some found) :
    ofLineBy order bindings number line = (some found.1, found.2) := by
  rw [ofLineBy, Grammar.findSome?_declare? hmem hfound, Option.elim_some]

theorem ofLineBy_of_declare?_eq_none (order : List Grammar)
    (hnone : ∀ grammar : Grammar, grammar.declare? bindings number line = none) :
    ofLineBy order bindings number line = (none, bindings) := by
  have hfirst : (order.findSome? fun grammar => grammar.declare? bindings number line) = none :=
    List.findSome?_eq_none_iff.mpr fun grammar _ => hnone grammar
  rw [ofLineBy, hfirst, Option.elim_none]

/-- Lines are read with variables tried first and functions last. -/
theorem ofLine_eq_ofLineBy :
    ofLine bindings number line =
      ofLineBy [.var, .callback, .function] bindings number line := by
  rw [ofLine, ofLineBy]
  simp only [List.findSome?_cons, List.findSome?_nil, Grammar.declare?]
  cases VariableForm.read? line with
  | some form => rfl
  | none =>
      cases CallbackForm.read? line with
      | some form => rfl
      | none => cases FunctionForm.read? line <;> rfl

theorem ofLine_of_declare? {grammar : Grammar} {found : Declaration × Bindings}
    (hfound : grammar.declare? bindings number line = some found) :
    ofLine bindings number line = (some found.1, found.2) := by
  have hmem : grammar ∈ [Grammar.var, .callback, .function] := by
    cases grammar <;> decide
  rw [ofLine_eq_ofLineBy, ofLineBy_of_declare? hmem hfound]

theorem ofLine_of_declare?_eq_none
    (hnone : ∀ grammar : Grammar, grammar.declare? bindings number line = none) :
    ofLine bindings number line = (none, bindings) := by
  rw [ofLine_eq_ofLineBy, ofLineBy_of_declare?_eq_none _ hnone]

theorem ofLineBy_eq_ofLine {order : List Grammar} (horder : ∀ grammar, grammar ∈ order) :
    ofLineBy order = ofLine := by
  funext bindings number line
  by_cases haccepted : ∃ grammar : Grammar, (grammar.declare? bindings number line).isSome = true
  · obtain ⟨grammar, haccepts⟩ := haccepted
    obtain ⟨found, hfound⟩ := Option.isSome_iff_exists.mp haccepts
    rw [ofLineBy_of_declare? (horder grammar) hfound, ofLine_of_declare? hfound]
  · have hnone : ∀ grammar : Grammar, grammar.declare? bindings number line = none := by
      intro grammar
      apply Option.not_isSome_iff_eq_none.mp
      exact fun haccepts => haccepted ⟨grammar, haccepts⟩
    rw [ofLineBy_of_declare?_eq_none order hnone, ofLine_of_declare?_eq_none hnone]

end Declaration

/-- The declarations on consecutive lines, with the grammars tried in an order on each. -/
def declarationsFromBy (order : List Grammar) (bindings : Bindings) (number : Nat) :
    List Line → List Declaration
  | [] => []
  | line :: lines =>
      let found := Declaration.ofLineBy order bindings number.toUInt32 line
      found.1.toList ++ declarationsFromBy order found.2 (number + 1) lines

theorem declarationsFromBy_eq {order : List Grammar} (horder : ∀ grammar, grammar ∈ order)
    (bindings : Bindings) (number : Nat) (lines : List Line) :
    declarationsFromBy order bindings number lines = declarationsFrom bindings number lines := by
  induction lines generalizing bindings number with
  | nil => rfl
  | cons line lines ih =>
      rw [declarationsFromBy, declarationsFrom, Declaration.ofLineBy_eq_ofLine horder, ih]

/-- The declarations on the lines before `stop`, or on all lines, with the grammars
tried in an order on each. -/
def declarationsBy {σ : Type} [LineSource σ] (order : List Grammar) (source : σ)
    (stop : Option Nat) : List Declaration :=
  declarationsFromBy order [] 0 (firstLines source (scannedLines source stop))

/-- The line starts, white space apart, with a keyword and white space behind it. -/
def StartsWithKeyword (keyword : String) (line : Line) : Prop :=
  ∃ blank, isBlank blank = true ∧ keyword.toList ++ [blank] <+: trimLeft line

theorem KeywordCut.startsWithKeyword {keyword : String} (hkeyword : IsName keyword.toList)
    {line indent gap rest : List Char} (hcut : KeywordCut keyword line indent gap rest) :
    StartsWithKeyword keyword line := by
  obtain ⟨blank, blanks, rfl⟩ := List.exists_cons_of_ne_nil hcut.gap_nonempty
  refine ⟨blank, hcut.isBlank_gap blank List.mem_cons_self, blanks ++ rest, ?_⟩
  rw [trimLeft, (hcut.dropWhile_eq hkeyword).2, List.append_assoc]
  rfl

theorem Declaration.ofLine_of_not_startsWithKeyword (bindings : Bindings) (number : UInt32)
    {line : Line} (hline : ∀ grammar : Grammar, ¬ StartsWithKeyword grammar.keyword line) :
    ofLine bindings number line = (none, bindings) := by
  apply ofLine_of_declare?_eq_none
  intro grammar
  apply Option.eq_none_iff_forall_not_mem.mpr
  intro found hfound
  obtain ⟨indent, gap, rest, hcut⟩ := Grammar.exists_keywordCut_of_declare? hfound
  exact hline grammar (hcut.startsWithKeyword grammar.isName_keyword)

/-- A function is found just on the lines that can be cut around its name. -/
theorem Declaration.exists_function_iff (bindings : Bindings) (number : UInt32) (line : Line)
    (name : String) :
    (∃ declaration, (ofLine bindings number line).1 = some declaration ∧
        declaration.isFunction = true ∧ declaration.name = name) ↔
      ∃ indent gap rest, RoutineCut "function" line indent gap name.toList rest := by
  constructor
  · rintro ⟨declaration, hfound, hfunction, rfl⟩
    rcases ofLine_cases hfound with ⟨form, -, rfl⟩ | ⟨form, -, rfl⟩ | ⟨form, hform, rfl⟩
    · cases hfunction
    · have hkind : (onLine number line (margin line) (form.attributes bindings)).kind = .callback :=
        kind_callback form bindings
      rw [isFunction, hkind] at hfunction
      cases hfunction
    · exact FunctionForm.read?_eq_some_iff.mp hform
  · intro hcut
    have hform : FunctionForm.read? line = some ⟨name⟩ := FunctionForm.read?_eq_some_iff.mpr hcut
    have hfound : Grammar.function.declare? bindings number line =
        some (onLine number line (FunctionForm.pattern.keywordColumn line)
          (FunctionForm.attributes ⟨name⟩), bindings) := by
      rw [Grammar.declare?, hform, Option.map_some]
      rfl
    rw [ofLine_of_declare? hfound]
    exact ⟨_, rfl, rfl, rfl⟩

/-- No line has two forms, whatever controls are known, so a scan finds the same in
whatever order the three are tried.  A line declares a function just if it can be cut
into white space, `function`, more white space, the name and a rest that does not go on
with it, and nothing if no keyword with white space behind it comes first. -/
theorem forms_exclude_each_other :
    (∀ (line : Line) (number : UInt32) (bindings others : Bindings) (grammar other : Grammar),
      (grammar.declare? bindings number line).isSome = true →
      (other.declare? others number line).isSome = true → grammar = other) ∧
    (∀ (σ : Type) [LineSource σ] (source : σ) (stop : Option Nat) (order : List Grammar),
      (∀ grammar, grammar ∈ order) →
      declarationsBy order source stop = declarations source stop) ∧
    ∀ (bindings : Bindings) (number : UInt32) (line : Line),
      (∀ name, (∃ declaration, (Declaration.ofLine bindings number line).1 = some declaration ∧
          declaration.isFunction = true ∧ declaration.name = name) ↔
        ∃ indent gap rest, RoutineCut "function" line indent gap name.toList rest) ∧
      ((∀ keyword ∈ ["declare", "on", "function"], ¬ StartsWithKeyword keyword line) →
        Declaration.ofLine bindings number line = (none, bindings)) := by
  refine ⟨?_, ?_, ?_⟩
  · intro line number bindings others grammar other
    exact Grammar.eq_of_isSome_declare?
  · intro σ _ source stop order horder
    exact declarationsFromBy_eq horder [] 0 _
  · intro bindings number line
    refine ⟨Declaration.exists_function_iff bindings number line, ?_⟩
    intro hline
    apply Declaration.ofLine_of_not_startsWithKeyword
    intro grammar
    apply hline
    cases grammar <;> decide

/-- Keywords as names and as parts of words, with the order of the forms turned round. -/
theorem forms_exclude_each_other_keywords_as_names :
    let order := [Grammar.function, .callback, .var]
    let source := ["on function", "\u3000function on(x)", "declare const $on", "declared $z"]
    (∀ grammar, grammar ∈ order) ∧
      declarationsBy order source none = declarations source none ∧
      (declarations source none).map (·.written) = ["function", "on", "$on"] ∧
      (Grammar.callback.declare? [] 0 "on function".toList).isSome = true ∧
      (Grammar.function.declare? [] 0 "on function".toList).isSome = false ∧
      (∃ declaration, (Declaration.ofLine [] 1 "\u3000function on(x)".toList).1 =
        some declaration ∧ declaration.isFunction = true ∧ declaration.name = "on") ∧
      (∀ keyword ∈ ["declare", "on", "function"],
        ¬ StartsWithKeyword keyword "declared $z".toList) ∧
      Declaration.ofLine [] 3 "declared $z".toList = (none, []) := by
  intro order source
  obtain ⟨hone, horders, hlines⟩ := forms_exclude_each_other
  have horder : ∀ grammar, grammar ∈ order := by
    intro grammar
    cases grammar <;> decide
  have hcallback : (Grammar.callback.declare? [] 0 "on function".toList).isSome = true := by
    decide
  have hfunction : (Grammar.function.declare? [] 0 "on function".toList).isSome = false := by
    apply Bool.eq_false_iff.mpr
    intro haccepts
    exact absurd (hone "on function".toList 0 [] [] .callback .function hcallback haccepts)
      (by decide)
  have hcut : RoutineCut "function" "\u3000function on(x)".toList ['\u3000'] [' '] "on".toList
      "(x)".toList :=
    { line_eq := by decide
      isBlank_indent := List.all_eq_true.mp (by decide)
      isBlank_gap := List.all_eq_true.mp (by decide)
      gap_nonempty := by decide
      isName := isName_of_all (by decide) (by decide)
      rest_closed := by
        rintro c ⟨⟩
        decide }
  have hnamed := ((hlines [] 1 "\u3000function on(x)".toList).1 "on").mpr ⟨_, _, _, hcut⟩
  have hstarts : ∀ keyword ∈ ["declare", "on", "function"],
      ¬ StartsWithKeyword keyword "declared $z".toList := by
    intro keyword hkeyword
    rintro ⟨blank, hblank, hstarts⟩
    have htext := List.prefix_iff_eq_take.mp hstarts
    simp only [List.mem_cons, List.not_mem_nil, or_false] at hkeyword
    rcases hkeyword with rfl | rfl | rfl
    · have hnext : some blank = some 'd' := congrArg List.getLast? htext
      cases hnext
      exact absurd hblank (by decide)
    · have hfirst : some 'o' = some 'd' := congrArg List.head? htext
      exact absurd hfirst (by decide)
    · have hfirst : some 'f' = some 'd' := congrArg List.head? htext
      exact absurd hfirst (by decide)
  exact ⟨horder, horders _ source none order horder, by decide +kernel, hcallback, hfunction,
    hnamed, hstarts, (hlines [] 3 "declared $z".toList).2 hstarts⟩

end KontaktScript

import KontaktScript.Proofs.Resolution

/-!
# Where a declaration is located

A declaration is located by a search for its written name on the whole line, while
its form says where on the line the identifier stands.  The two agree on every
variable, since no sigil can precede the identifier, and on every callback and
function whose name is no part of its keyword.  A name that is a part of the keyword
is located in the keyword, at the first place where it occurs there.
-/

namespace KontaktScript

open Text

namespace RoutineCut

variable {keyword : String} {line indent gap name rest : List Char}

/-- A name that is a part of the keyword first occurs in the keyword. -/
theorem firstOccurrence?_eq_of_isInfix (hcut : RoutineCut keyword line indent gap name rest)
    (hpart : name <:+: keyword.toList) :
    ∃ offset, firstOccurrence? name keyword.toList = some offset ∧
      firstOccurrence? name line = some (indent.length + offset) := by
  have hsome := isSome_firstOccurrence?_of_isInfix hpart
  obtain ⟨offset, hoffset⟩ := Option.isSome_iff_exists.mp hsome
  obtain ⟨first, tail, rfl⟩ := List.exists_cons_of_ne_nil hcut.isName.nonempty
  have hfirst : first ∉ indent := by
    intro hmem
    have hblank := hcut.isBlank_indent first hmem
    rw [not_isBlank_of_isNameChar (hcut.isName.isNameChar first List.mem_cons_self)] at hblank
    cases hblank
  have hkeyword := firstOccurrence?_append_of_eq_some hoffset (gap ++ (first :: tail ++ rest))
  refine ⟨offset, hoffset, ?_⟩
  rw [hcut.line_eq, List.append_assoc, List.append_assoc,
    firstOccurrence?_append_of_not_mem hfirst, hkeyword, Option.map_some]

end RoutineCut

namespace Declaration

/-- A line has the form of a declaration: the keyword stands at one column of the line
and the declared identifier, with its sigil, at another. -/
inductive MatchedAt (declaration : Declaration) (line : Line) : Nat → Nat → Prop where
  | var {type : VarType} {indent gap qualifier space rest : List Char}
      (hkind : declaration.kind = .var type)
      (hcut : VariableCut line indent gap qualifier space type declaration.name.toList rest) :
      MatchedAt declaration line indent.length
        (indent ++ "declare".toList ++ gap ++ qualifier ++ space).length
  | routine {indent gap rest : List Char}
      (hkind : declaration.isCallback = true ∨ declaration.isFunction = true)
      (hcut : RoutineCut declaration.keyword line indent gap declaration.name.toList rest) :
      MatchedAt declaration line indent.length
        (indent ++ declaration.keyword.toList ++ gap).length

theorem isName_keyword (declaration : Declaration) : IsName declaration.keyword.toList := by
  rw [keyword]
  split
  · exact isName_on
  · exact isName_function
  · exact isName_declare

namespace MatchedAt

variable {declaration : Declaration} {line : Line} {start column : Nat}

theorem margin_eq (hmatched : declaration.MatchedAt line start column) :
    margin line = start := by
  cases hmatched with
  | var hkind hcut =>
      exact hcut.toKeywordCut.margin_eq isName_declare
  | routine hkind hcut => exact hcut.toKeywordCut.margin_eq declaration.isName_keyword

theorem firstOccurrence?_eq (hmatched : declaration.MatchedAt line start column)
    (hproper : declaration.IsProper) (hout : declaration.StandsOut) :
    firstOccurrence? declaration.written.toList line = some column := by
  cases hmatched with
  | var hkind hcut =>
      have hwritten := splitSigil?_eq_some_iff.mp (splitSigil?_written hkind hproper.name_eq)
      rw [hwritten]
      exact hcut.firstOccurrence?_eq
  | routine hkind hcut =>
      have hvariable := not_isVariable_of_routine hkind
      have hpart := hout.resolve_left (by rw [hvariable]; exact Bool.false_ne_true)
      rw [written_of_not_isVariable hvariable hproper.name_eq]
      exact hcut.firstOccurrence?_eq hpart

theorem firstOccurrence?_eq_of_isInfix (hmatched : declaration.MatchedAt line start column)
    (hproper : declaration.IsProper) (hvariable : declaration.isVariable = false)
    (hpart : declaration.name.toList <:+: declaration.keyword.toList) :
    ∃ offset, firstOccurrence? declaration.name.toList declaration.keyword.toList = some offset ∧
      firstOccurrence? declaration.written.toList line = some (start + offset) := by
  cases hmatched with
  | var hkind hcut =>
      rw [isVariable, hkind] at hvariable
      cases hvariable
  | routine hkind hcut =>
      rw [written_of_not_isVariable hvariable hproper.name_eq]
      exact hcut.firstOccurrence?_eq_of_isInfix hpart

theorem start_le (hmatched : declaration.MatchedAt line start column) : start ≤ column := by
  cases hmatched with
  | var hkind hcut =>
      simp only [List.length_append]
      omega
  | routine hkind hcut =>
      simp only [List.length_append]
      omega

/-- Wherever the written name of a declaration first occurs on its line, it does so at
or behind the keyword. -/
theorem exists_firstOccurrence?_eq (hmatched : declaration.MatchedAt line start column)
    (hproper : declaration.IsProper) :
    ∃ place, start ≤ place ∧ firstOccurrence? declaration.written.toList line = some place := by
  by_cases hout : declaration.StandsOut
  · exact ⟨column, hmatched.start_le, hmatched.firstOccurrence?_eq hproper hout⟩
  · have hvariable : declaration.isVariable = false :=
      Bool.eq_false_iff.mpr fun hvariable => hout (.inl hvariable)
    have hpart : declaration.name.toList <:+: declaration.keyword.toList :=
      Classical.not_not.mp fun hpart => hout (.inr hpart)
    obtain ⟨offset, -, hplace⟩ :=
      hmatched.firstOccurrence?_eq_of_isInfix hproper hvariable hpart
    exact ⟨start + offset, Nat.le_add_right start offset, hplace⟩

end MatchedAt

section OfLine

variable {bindings : Bindings} {number : UInt32} {line : Line} {declaration : Declaration}

/-- A line has the form of what is found on it. -/
theorem exists_matchedAt_of_ofLine (hfound : (ofLine bindings number line).1 = some declaration) :
    ∃ start column, declaration.MatchedAt line start column := by
  rcases ofLine_cases hfound with ⟨form, hform, rfl⟩ | ⟨form, hform, rfl⟩ | ⟨form, hform, rfl⟩
  · obtain ⟨indent, gap, qualifier, space, rest, hcut, -⟩ := exists_variableCut hform
    exact ⟨_, _, .var rfl hcut⟩
  · obtain ⟨indent, gap, rest, hcut, -⟩ := CallbackForm.read?_eq_some_iff.mp hform
    have hkind : (onLine number line (margin line) (form.attributes bindings)).kind = .callback :=
      kind_callback form bindings
    have hcallback :
        (onLine number line (margin line) (form.attributes bindings)).isCallback = true := by
      rw [isCallback, hkind]
      rfl
    have hkeyword :
        (onLine number line (margin line) (form.attributes bindings)).keyword = "on" := by
      rw [keyword, hkind]
    have hsame : (onLine number line (margin line) (form.attributes bindings)).name = form.name :=
      name_callback form bindings
    rw [← hkeyword, ← hsame] at hcut
    exact ⟨_, _, .routine (.inl hcallback) hcut⟩
  · obtain ⟨indent, gap, rest, hcut⟩ := FunctionForm.read?_eq_some_iff.mp hform
    exact ⟨_, _, .routine (.inr rfl) hcut⟩

theorem toNat_start_of_ofLine (hfound : (ofLine bindings number line).1 = some declaration)
    (hshort : line.length < UInt32.size) :
    declaration.range.start.column.toNat = margin line := by
  obtain ⟨attributes, rfl⟩ := exists_onLine_of_ofLine hfound
  have hcolumn : margin line ≤ line.length :=
    (List.takeWhile_sublist isBlank).length_le
  exact UInt32.toNat_ofNat_of_lt' (Nat.lt_of_le_of_lt hcolumn hshort)

theorem toNat_column_of_ofLine (hfound : (ofLine bindings number line).1 = some declaration)
    (hshort : line.length < UInt32.size) {place : Nat}
    (hplace : firstOccurrence? declaration.written.toList line = some place) :
    declaration.location.column.toNat = place := by
  have hbound := firstOccurrence?_le_length hplace
  obtain ⟨attributes, rfl⟩ := exists_onLine_of_ofLine hfound
  rw [written_onLine] at hplace
  rw [column_onLine hplace]
  exact UInt32.toNat_ofNat_of_lt' (Nat.lt_of_le_of_lt hbound hshort)

end OfLine

end Declaration

/-- Every declaration that a scan finds is found on one of the lines. -/
theorem exists_ofLine_of_mem {σ : Type} [LineSource σ] {source : σ} {stop : Option Nat}
    {declaration : Declaration} (hmem : declaration ∈ declarations source stop) :
    ∃ i < scannedLines source stop, ∃ bindings,
      (Declaration.ofLine bindings i.toUInt32 (LineSource.lineText source i)).1 =
        some declaration := by
  rw [declarations_eq_filterMap] at hmem
  obtain ⟨i, hi, hplaced⟩ := List.mem_filterMap.mp hmem
  refine ⟨i, List.mem_range.mp hi, bindingsFrom [] 0 (firstLines source i), ?_⟩
  rw [Declaration.ofLine_fst _ _ (reflect_firstLines source i)]
  exact hplaced

/-- Every declaration that a scan finds is found on a line and located there: where the
form of the line has the identifier, if it is a variable or if its name is no part of
its keyword, and otherwise where the name first occurs in the keyword.  In all cases
the line goes on there with the name as it is written, and the keyword stands no
further right. -/
theorem declarations_located {σ : Type} [LineSource σ] (source : σ) (stop : Option Nat)
    {declaration : Declaration} (hmem : declaration ∈ declarations source stop) :
    ∃ i < scannedLines source stop, ∃ bindings,
      let line := LineSource.lineText source i
      (Declaration.ofLine bindings i.toUInt32 line).1 = some declaration ∧
      (line.length < UInt32.size →
        let start := declaration.range.start.column.toNat
        let place := declaration.location.column.toNat
        let name := declaration.name.toList
        let keyword := declaration.keyword.toList
        (∃ column, declaration.MatchedAt line start column) ∧
        (∀ margin column, declaration.MatchedAt line margin column →
          margin = start ∧
          (declaration.isVariable = true ∨ ¬ name <:+: keyword → place = column) ∧
          (declaration.isVariable = false → name <:+: keyword →
            ∃ offset, IsLeast {offset | name <+: keyword.drop offset} offset ∧
              place = start + offset)) ∧
        declaration.written.toList <+: line.drop place ∧
        start ≤ place) := by
  obtain ⟨i, hi, bindings, hfound⟩ := exists_ofLine_of_mem hmem
  refine ⟨i, hi, bindings, hfound, ?_⟩
  intro hshort start place name keyword
  have hproper := Declaration.isProper_of_mem hmem
  have hstart : start = margin (LineSource.lineText source i) :=
    Declaration.toNat_start_of_ofLine hfound hshort
  have hplace : ∀ {found : Nat}, firstOccurrence? declaration.written.toList
      (LineSource.lineText source i) = some found → place = found :=
    Declaration.toNat_column_of_ofLine hfound hshort
  have hmargin : ∀ {margin column : Nat}, declaration.MatchedAt
      (LineSource.lineText source i) margin column → start = margin := by
    intro margin column hmatched
    rw [hstart, hmatched.margin_eq]
  obtain ⟨margin, column, hmatched⟩ := Declaration.exists_matchedAt_of_ofLine hfound
  obtain ⟨found, hle, hoccurs⟩ := hmatched.exists_firstOccurrence?_eq hproper
  refine ⟨⟨column, ?_⟩, ?_, ?_, ?_⟩
  · rw [hmargin hmatched]
    exact hmatched
  · intro margin column hmatched
    refine ⟨(hmargin hmatched).symm, ?_, ?_⟩
    · intro hout
      exact hplace (hmatched.firstOccurrence?_eq hproper hout)
    · intro hvariable hpart
      obtain ⟨offset, hoffset, hoccurs⟩ :=
        hmatched.firstOccurrence?_eq_of_isInfix hproper hvariable hpart
      refine ⟨offset, isLeast_of_firstOccurrence? hoffset, ?_⟩
      rw [hplace hoccurs, hmargin hmatched]
  · rw [hplace hoccurs]
    exact (isLeast_of_firstOccurrence? hoccurs).1
  · rw [hplace hoccurs, hmargin hmatched]
    exact hle

/-- A callback that is located in its keyword, and a variable whose line repeats its
name. -/
theorem declarations_located_in_keyword :
    let callback := Declaration.onLine 0 "\u3000on n".toList 1
      { name := "n", kind := .callback, description := "Callback" }
    let declared := Declaration.onLine 0 "declare ui_x$x (x$x)".toList 0
      { name := "x", kind := .var .integer, typeName := "ui_x", isUi := true,
        description := "UI Variable (ui_x)" }
    callback ∈ declarations ["\u3000on n"] none ∧
      callback.MatchedAt "\u3000on n".toList 1 4 ∧
      IsLeast {offset | "n".toList <+: "on".toList.drop offset} 1 ∧
      callback.location.column.toNat = 1 + 1 ∧
      declared ∈ declarations ["declare ui_x$x (x$x)"] none ∧
      declared.MatchedAt "declare ui_x$x (x$x)".toList 0 12 ∧
      declared.location.column.toNat = 12 := by
  intro callback declared
  have hcallback : callback ∈ declarations ["\u3000on n"] none := by
    have hfound : declarations ["\u3000on n"] none = [callback] := by decide +kernel
    rw [hfound]
    exact List.mem_singleton_self callback
  have hdeclared : declared ∈ declarations ["declare ui_x$x (x$x)"] none := by
    have hfound : declarations ["declare ui_x$x (x$x)"] none = [declared] := by decide +kernel
    rw [hfound]
    exact List.mem_singleton_self declared
  have hroutine : callback.MatchedAt "\u3000on n".toList 1 4 := by
    have hcut : RoutineCut callback.keyword "\u3000on n".toList ['\u3000'] [' ']
        callback.name.toList [] :=
      { line_eq := by decide
        isBlank_indent := List.all_eq_true.mp (by decide)
        isBlank_gap := List.all_eq_true.mp (by decide)
        gap_nonempty := by decide
        isName := isName_of_all (by decide) (by decide)
        rest_closed := by simp }
    have hkeyword : callback.keyword = "on" := rfl
    have hmatched := Declaration.MatchedAt.routine (.inl rfl) hcut
    rw [hkeyword] at hmatched
    exact hmatched
  have hvariable : declared.MatchedAt "declare ui_x$x (x$x)".toList 0 12 := by
    have hcut : VariableCut "declare ui_x$x (x$x)".toList [] [' '] ("ui_".toList ++ ['x']) []
        .integer declared.name.toList [' ', '(', 'x', '$', 'x', ')'] :=
      { line_eq := by decide
        isBlank_indent := List.forall_mem_nil _
        isBlank_gap := List.all_eq_true.mp (by decide)
        gap_nonempty := by decide
        isQualifier := .ui (isName_of_all (by decide) (by decide))
        isBlank_space := List.forall_mem_nil _
        isName := isName_of_all (by decide) (by decide)
        rest_closed := by
          rintro c ⟨⟩
          decide }
    exact Declaration.MatchedAt.var rfl hcut
  obtain ⟨i, hi, -, -, hplace⟩ := declarations_located ["\u3000on n"] none hcallback
  obtain rfl : i = 0 := Nat.lt_one_iff.mp hi
  obtain ⟨-, hroutines, -, -⟩ := hplace (by decide)
  obtain ⟨j, hj, -, -, hplace⟩ := declarations_located ["declare ui_x$x (x$x)"] none hdeclared
  obtain rfl : j = 0 := Nat.lt_one_iff.mp hj
  obtain ⟨-, hvariables, -, -⟩ := hplace (by decide)
  obtain ⟨hstart, -, hpart⟩ := hroutines 1 4 hroutine
  obtain ⟨offset, hleast, hcolumn⟩ := hpart rfl ⟨['o'], [], by decide⟩
  have htwo : callback.location.column.toNat = 1 + 1 := by decide +kernel
  obtain rfl : offset = 1 := by omega
  exact ⟨hcallback, hroutine, hleast, htwo, hdeclared, hvariable,
    (hvariables 0 12 hvariable).2.1 (.inl rfl)⟩

end KontaktScript

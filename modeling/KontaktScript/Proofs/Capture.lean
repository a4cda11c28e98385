import KontaktScript.Proofs.Grammar
import KontaktScript.Proofs.Pattern

/-!
# What the patterns of the forms capture

Matching the pattern of a form walks along a cut of the line into the parts of the
form.  So a line has the form just if it can be cut, and what is captured are the
parts of the cut, however it shares out white space.
-/

namespace KontaktScript

open Text

theorem exists_keywordCut {keyword : String} {offset : Nat} {taken : List Char}
    {found after : Captures} (hmatches : (Pattern.keyword keyword).Matches offset taken found after)
    (rest : List Char) : ∃ indent gap, KeywordCut keyword (taken ++ rest) indent gap rest := by
  simp only [Pattern.keyword, Pattern.matches_seq_iff, Pattern.matches_many_iff,
    Pattern.matches_group_iff, Pattern.matches_chars_iff, Pattern.matches_oneOrMore_iff] at hmatches
  obtain ⟨indent, -, -, rfl, ⟨hindent, rfl⟩, word, gap, -, rfl, ⟨-, ⟨rfl, -⟩, -⟩,
    ⟨hnonempty, hgap⟩, -⟩ := hmatches
  exact ⟨indent, gap, by simp only [List.append_assoc], hindent, hgap, hnonempty⟩

theorem matches_qualifierPattern {offset : Nat} {text : List Char} {found after : Captures}
    (hmatches : VariableForm.qualifierPattern.Matches offset text found after) :
    IsQualifier text ∧ text ≠ [] := by
  simp only [VariableForm.qualifierPattern, Pattern.matches_either_iff, Pattern.matches_seq_iff,
    Pattern.matches_chars_iff, Pattern.matches_oneOrMore_iff] at hmatches
  rcases hmatches with ⟨lead, name, -, rfl, ⟨rfl, -⟩, ⟨hnonempty, hname⟩, -⟩ | ⟨rfl, -⟩ | ⟨rfl, -⟩
  · exact ⟨.ui ⟨hnonempty, hname⟩, List.append_ne_nil_of_right_ne_nil _ hnonempty⟩
  · exact ⟨.const, by decide⟩
  · exact ⟨.polyphonic, by decide⟩

theorem matches_optional_qualifier {offset : Nat} {text : List Char} {found after : Captures}
    (hmatches : (Pattern.optional (.group 2 VariableForm.qualifierPattern)).Matches offset text
      found after) : IsQualifier text := by
  rw [Pattern.optional, Pattern.matches_either_iff, Pattern.matches_group_iff,
    Pattern.matches_empty_iff] at hmatches
  rcases hmatches with ⟨within, hqualifier, -⟩ | ⟨rfl, -⟩
  · exact (matches_qualifierPattern hqualifier).1
  · exact .plain

theorem exists_variableCut_of_matches {offset : Nat} {taken : List Char} {after : Captures}
    (hmatches : VariableForm.pattern.Matches offset taken [] after) (more : List Char) :
    ∃ indent gap qualifier space type name rest,
      VariableCut (taken ++ more) indent gap qualifier space type name rest := by
  rw [VariableForm.pattern, Pattern.matches_seq_iff] at hmatches
  obtain ⟨lead, behind, between, rfl, hlead, hbehind⟩ := hmatches
  simp only [Pattern.matches_seq_iff, Pattern.matches_many_iff, Pattern.matches_group_iff,
    Pattern.matches_one_iff, Pattern.matches_oneOrMore_iff] at hbehind
  obtain ⟨qualifier, _, _, rfl, hqualifier, space, _, _, rfl, ⟨hspace, -⟩, _, ⟨_, start, _, rfl,
    ⟨⟨sigil, rfl, hsigil⟩, -⟩, ⟨hnonempty, hstart⟩, -⟩, -⟩ := hbehind
  obtain ⟨type, htype⟩ := Option.isSome_iff_exists.mp hsigil
  obtain rfl := VarType.ofSigil?_eq_some_iff.mp htype
  have hisName : IsName start := ⟨hnonempty, hstart⟩
  obtain ⟨indent, gap, hcut⟩ :=
    exists_keywordCut hlead (qualifier ++ (space ++ ([type.sigil] ++ start)) ++ more)
  have hsplit : qualifier ++ (space ++ ([type.sigil] ++ start)) ++ more =
      qualifier ++ space ++ (type.sigil :: (start ++ more.takeWhile isNameChar)) ++
        more.dropWhile isNameChar := by
    simp only [List.append_assoc, List.cons_append, List.nil_append,
      List.takeWhile_append_dropWhile]
  rw [← List.append_assoc, hsplit] at hcut
  exact ⟨indent, gap, qualifier, space, type, _, _, hcut, matches_optional_qualifier hqualifier,
    hspace, hisName.append_run more, head?_dropWhile_eq_false isNameChar more⟩

theorem matches_argumentPattern_iff {offset : Nat} {text : List Char} {found after : Captures} :
    CallbackForm.argumentPattern.Matches offset text found after ↔
      (∃ space content, text = parenthesized space content ∧ ArgumentCut text space content []) ∧
        after = found := by
  simp only [CallbackForm.argumentPattern, Pattern.matches_seq_iff, Pattern.matches_many_iff,
    Pattern.matches_only_iff, Pattern.matches_oneOrMore_iff]
  constructor
  · rintro ⟨space, -, -, rfl, ⟨hspace, rfl⟩, -, -, -, rfl, ⟨rfl, rfl⟩, left, -, -, rfl,
      ⟨hleft, rfl⟩, inner, -, -, rfl, ⟨⟨hnonempty, hinner⟩, rfl⟩, right, -, -, rfl,
      ⟨hright, rfl⟩, rfl, rfl⟩
    have hblank : ∀ blanks : List Char, (∀ c ∈ blanks, isBlank c = true) → ')' ∉ blanks := by
      intro blanks hblanks hmem
      exact absurd (hblanks ')' hmem) (by decide)
    have hclose : ')' ∉ inner := by
      intro hmem
      exact absurd (hinner ')' hmem) (by decide)
    have htext : space ++ (['('] ++ (left ++ (inner ++ (right ++ [')'])))) =
        parenthesized space (left ++ (inner ++ right)) := by
      simp only [parenthesized, List.append_assoc, List.cons_append, List.nil_append]
    refine ⟨⟨space, left ++ (inner ++ right), htext, htext, hspace, ?_, ?_⟩, rfl⟩
    · simp [hnonempty]
    · simp [hblank left hleft, hblank right hright, hclose]
  · rintro ⟨⟨space, content, rfl, hcut⟩, rfl⟩
    have hcontent : ∀ c ∈ content, (CharClass.anyBut ')').holds c = true := by
      intro c hc
      rw [CharClass.holds, bne_iff_ne]
      rintro rfl
      exact hcut.not_mem hc
    exact ⟨space, '(' :: (content ++ [')']), after, rfl, ⟨hcut.isBlank_space, rfl⟩, ['('],
      content ++ [')'], after, rfl, ⟨rfl, rfl⟩, [], content ++ [')'], after, rfl,
      ⟨List.forall_mem_nil _, rfl⟩, content, [')'], after, rfl,
      ⟨⟨hcut.nonempty, hcontent⟩, rfl⟩, [], [')'], after, rfl, ⟨List.forall_mem_nil _, rfl⟩,
      rfl, rfl⟩

namespace KeywordCut

variable {keyword : String} {line indent gap rest : List Char}

/-- A keyword is captured where the line starts to be other than white space. -/
theorem keywordColumn_eq (hkeyword : IsName keyword.toList)
    (hcut : KeywordCut keyword line indent gap rest) {pattern : Pattern} {found : Captures}
    (hmatch : pattern.match? line = some found)
    (hfound : found.lookup 1 = some ⟨indent.length, keyword.toList⟩) :
    pattern.keywordColumn line = margin line := by
  rw [Pattern.keywordColumn, hmatch, Option.bind_some, hfound, hcut.margin_eq hkeyword]
  rfl

/-- The white space around a keyword is taken as a whole. -/
theorem prefers (hkeyword : IsName keyword.toList)
    (hcut : KeywordCut keyword line indent gap rest)
    (hrest : ∀ c ∈ rest.head?, isBlank c = false) (found : Captures) :
    (Pattern.keyword keyword).Prefers 0 (indent ++ (keyword.toList ++ gap)) rest found
      ((1, ⟨indent.length, keyword.toList⟩) :: found) := by
  have hindent : (Pattern.many .blank).Prefers 0 indent (keyword.toList ++ (gap ++ rest))
      found found :=
    Pattern.prefers_many 0 found hcut.isBlank_indent (hkeyword.not_isBlank_head? (gap ++ rest))
  have hword := Pattern.prefers_group 1
    (Pattern.prefers_chars indent.length keyword.toList (gap ++ rest) found)
  have hgap : (Pattern.oneOrMore .blank).Prefers (indent.length + keyword.toList.length) gap rest
      ((1, ⟨indent.length, keyword.toList⟩) :: found)
      ((1, ⟨indent.length, keyword.toList⟩) :: found) :=
    Pattern.prefers_oneOrMore _ _ hcut.gap_nonempty hcut.isBlank_gap hrest
  rw [← List.append_assoc] at hindent
  apply Pattern.prefers_seq hindent
  rw [Nat.zero_add]
  exact Pattern.prefers_seq hword hgap

end KeywordCut

/-- A qualifier is taken up to its end. -/
theorem IsQualifier.prefers {qualifier : List Char} (hqualifier : IsQualifier qualifier)
    (hnonempty : qualifier ≠ []) {rest : List Char}
    (hrest : ∀ c ∈ rest.head?, Text.isNameChar c = false) (offset : Nat) (found : Captures) :
    VariableForm.qualifierPattern.Prefers offset qualifier rest found found := by
  have hstarts : ∀ {text start behind : List Char} {within : Captures} {c : Char},
      text.head? = some c → c ≠ 'u' → text = start ++ behind →
      ¬ (Pattern.seq (.chars "ui_".toList) (.oneOrMore .nameChar)).Matches offset start found
        within := by
    intro text start behind within c hc hne htext hmatches
    simp only [Pattern.matches_seq_iff, Pattern.matches_chars_iff] at hmatches
    obtain ⟨lead, name, -, rfl, ⟨rfl, -⟩, -⟩ := hmatches
    rw [htext] at hc
    exact hne (Option.some.inj hc).symm
  cases hqualifier with
  | plain => exact absurd rfl hnonempty
  | ui hname =>
      apply Pattern.prefers_left
      exact Pattern.prefers_seq (Pattern.prefers_chars offset "ui_".toList _ found)
        (Pattern.prefers_oneOrMore _ found hname.nonempty hname.isNameChar hrest)
  | const =>
      apply Pattern.prefers_right
      · exact fun start behind within => hstarts (c := 'c') rfl (by decide)
      · exact Pattern.prefers_left (Pattern.prefers_chars offset "const".toList rest found)
  | polyphonic =>
      apply Pattern.prefers_right
      · exact fun start behind within => hstarts (c := 'p') rfl (by decide)
      · apply Pattern.prefers_right
        · intro start behind within htext hmatches
          rw [Pattern.matches_chars_iff] at hmatches
          rw [hmatches.1] at htext
          have hfirst : some 'p' = some 'c' := congrArg List.head? htext
          exact absurd hfirst (by decide)
        · exact Pattern.prefers_chars offset "polyphonic".toList rest found

namespace VariableCut

variable {line indent gap qualifier space name rest : List Char} {type : VarType}

/-- White space and the variable behind it. -/
theorem prefers_variable (hcut : VariableCut line indent gap qualifier space type name rest)
    (offset : Nat) (found : Captures) :
    (Pattern.seq (.many .blank) (.group 3 (.seq (.one .sigil) (.oneOrMore .nameChar)))).Prefers
      offset (space ++ (type.sigil :: name)) rest found
      ((3, ⟨offset + space.length, type.sigil :: name⟩) :: found) := by
  have hsigil : CharClass.sigil.holds type.sigil = true := by
    rw [CharClass.holds, VarType.ofSigil?_sigil, Option.isSome_some]
  have hname : (Pattern.seq (.one .sigil) (.oneOrMore .nameChar)).Prefers (offset + space.length)
      ([type.sigil] ++ name) rest found found :=
    Pattern.prefers_seq (Pattern.prefers_one _ (name ++ rest) found hsigil)
      (Pattern.prefers_oneOrMore _ found hcut.isName.nonempty hcut.isName.isNameChar
        hcut.rest_closed)
  exact Pattern.prefers_seq
    (Pattern.prefers_many offset found hcut.isBlank_space (type.not_isBlank_head? (name ++ rest)))
    (Pattern.prefers_group 3 hname)

theorem match?_plain (hcut : VariableCut line indent gap [] [] type name rest) :
    VariableForm.pattern.match? line =
      some [(3, ⟨(indent ++ ("declare".toList ++ gap)).length, type.sigil :: name⟩),
        (1, ⟨indent.length, "declare".toList⟩)] := by
  have hkeyword := hcut.toKeywordCut.prefers isName_declare
    (type.not_isBlank_head? (name ++ rest)) []
  have hnone : ∀ start behind within, [] ++ (type.sigil :: name ++ rest) = start ++ behind →
      ¬ (Pattern.group 2 VariableForm.qualifierPattern).Matches
        (0 + (indent ++ ("declare".toList ++ gap)).length) start
        [(1, ⟨indent.length, "declare".toList⟩)] within := by
    intro start behind within htext hmatches
    rw [Pattern.matches_group_iff] at hmatches
    obtain ⟨_, hqualifier, -⟩ := hmatches
    obtain ⟨hisQualifier, hnonempty⟩ := matches_qualifierPattern hqualifier
    obtain ⟨first, tail, rfl⟩ := List.exists_cons_of_ne_nil hnonempty
    have hfirst : type.sigil = first := (List.cons.inj htext).1
    have hname := hisQualifier.isNameChar first List.mem_cons_self
    rw [← hfirst, type.isNameChar_sigil] at hname
    cases hname
  have hplain := Pattern.prefers_right hnone (Pattern.prefers_empty _ _ _)
  have hbehind := Pattern.prefers_seq hplain (hcut.prefers_variable _ _)
  have hwhole := (Pattern.prefers_seq hkeyword hbehind).match?_eq
  rw [hcut.line_eq]
  simpa only [VariableForm.pattern, Pattern.optional, List.append_assoc, List.nil_append,
    List.length_nil, Nat.zero_add, Nat.add_zero] using hwhole

theorem match?_qualified (hcut : VariableCut line indent gap qualifier space type name rest)
    (hnonempty : qualifier ≠ []) :
    ∃ column, VariableForm.pattern.match? line =
      some [(3, ⟨column, type.sigil :: name⟩),
        (2, ⟨(indent ++ ("declare".toList ++ gap)).length, qualifier⟩),
        (1, ⟨indent.length, "declare".toList⟩)] := by
  have hword : IsName qualifier := ⟨hnonempty, hcut.isQualifier.isNameChar⟩
  have hkeywordCut := hcut.toKeywordCut
  rw [List.append_assoc qualifier] at hkeywordCut
  have hhead : ∀ c ∈ (qualifier ++ (space ++ (type.sigil :: name)) ++ rest).head?,
      isBlank c = false := by
    rw [List.append_assoc]
    exact hword.not_isBlank_head? _
  have hkeyword := hkeywordCut.prefers isName_declare hhead []
  have hend : ∀ c ∈ ((space ++ (type.sigil :: name)) ++ rest).head?, isNameChar c = false := by
    rw [List.append_assoc]
    exact not_isNameChar_head?_append hcut.isBlank_space (type.not_isNameChar_head? (name ++ rest))
  have hgroup := Pattern.prefers_group 2 (hcut.isQualifier.prefers hnonempty hend
    (0 + (indent ++ ("declare".toList ++ gap)).length) [(1, ⟨indent.length, "declare".toList⟩)])
  have hqualifier : (Pattern.optional (.group 2 VariableForm.qualifierPattern)).Prefers _ _ _ _ _ :=
    Pattern.prefers_left hgroup
  have hbehind := Pattern.prefers_seq hqualifier (hcut.prefers_variable _ _)
  have hwhole := (Pattern.prefers_seq hkeyword hbehind).match?_eq
  rw [Nat.zero_add] at hwhole
  refine ⟨_, Eq.trans ?_ hwhole⟩
  rw [hkeywordCut.line_eq, VariableForm.pattern]
  simp only [List.append_assoc]

theorem exists_match? (hcut : VariableCut line indent gap qualifier space type name rest) :
    ∃ found, VariableForm.pattern.match? line = some found ∧
      found.lookup 1 = some ⟨indent.length, "declare".toList⟩ ∧
      (found.text? 2).getD [] = qualifier ∧ found.text? 3 = some (type.sigil :: name) := by
  by_cases hplain : qualifier = []
  · subst hplain
    exact ⟨_, hcut.gather.match?_plain, rfl, rfl, rfl⟩
  · obtain ⟨column, hmatch⟩ := hcut.match?_qualified hplain
    exact ⟨_, hmatch, rfl, rfl, rfl⟩

theorem read?_eq (hcut : VariableCut line indent gap qualifier space type name rest)
    {read : Qualifier} (hread : Qualifier.ofWord? qualifier = some read) :
    VariableForm.read? line = some ⟨read, type, String.ofList name⟩ := by
  obtain ⟨found, hmatch, -, hqualifier, hvariable⟩ := hcut.exists_match?
  rw [VariableForm.read?, hmatch]
  simp only [Option.bind_eq_bind, Option.bind_some, hqualifier, hread, hvariable,
    VarType.ofSigil?_sigil]

end VariableCut

theorem exists_variableCut {line : Line} {form : VariableForm}
    (hform : VariableForm.read? line = some form) :
    ∃ indent gap qualifier space rest,
      VariableCut line indent gap qualifier space form.type form.name.toList rest ∧
        Qualifier.ofWord? qualifier = some form.qualifier := by
  obtain ⟨found, hfound, -⟩ := Option.bind_eq_some_iff.mp hform
  obtain ⟨taken, more, rfl, hmatches⟩ := Pattern.exists_matches_of_matchAt? hfound
  obtain ⟨indent, gap, qualifier, space, type, name, rest, hcut⟩ :=
    exists_variableCut_of_matches hmatches more
  obtain ⟨read, hread⟩ := hcut.isQualifier.exists_ofWord?
  have hsame := hform.symm.trans (hcut.read?_eq hread)
  cases hsame
  refine ⟨indent, gap, qualifier, space, rest, ?_, hread⟩
  rw [String.toList_ofList]
  exact hcut

theorem VariableForm.read?_eq_some_iff {line : Line} {form : VariableForm} :
    VariableForm.read? line = some form ↔
      ∃ indent gap qualifier space rest,
        VariableCut line indent gap qualifier space form.type form.name.toList rest ∧
          Qualifier.ofWord? qualifier = some form.qualifier := by
  constructor
  · exact exists_variableCut
  · rintro ⟨indent, gap, qualifier, space, rest, hcut, hqualifier⟩
    rw [hcut.read?_eq hqualifier, String.ofList_toList]

theorem VariableForm.keywordColumn_eq {line : Line} {form : VariableForm}
    (hform : read? line = some form) : pattern.keywordColumn line = margin line := by
  obtain ⟨indent, gap, qualifier, space, rest, hcut, -⟩ := exists_variableCut hform
  obtain ⟨found, hmatch, hkeyword, -⟩ := hcut.exists_match?
  exact hcut.toKeywordCut.keywordColumn_eq isName_declare hmatch hkeyword

theorem ArgumentCut.prefers {rest space content more : List Char}
    (hcut : ArgumentCut rest space content more) (offset : Nat) (found : Captures) :
    CallbackForm.argumentPattern.Prefers offset (parenthesized space content) more found found := by
  have hrest : rest = parenthesized space content ++ more := by
    rw [hcut.rest_eq]
    simp only [parenthesized, List.append_assoc, List.cons_append, List.nil_append]
  have halone : ArgumentCut (parenthesized space content) space content [] :=
    ⟨rfl, hcut.isBlank_space, hcut.nonempty, hcut.not_mem⟩
  apply Pattern.Matches.prefers
    (matches_argumentPattern_iff.mpr ⟨⟨space, content, rfl, halone⟩, rfl⟩)
  intro start behind within hsplit hmatches
  obtain ⟨⟨space', content', rfl, hother⟩, rfl⟩ := matches_argumentPattern_iff.mp hmatches
  have hlonger : ArgumentCut rest space' content' behind := by
    refine ⟨?_, hother.isBlank_space, hother.nonempty, hother.not_mem⟩
    rw [hrest, hsplit]
    simp only [parenthesized, List.append_assoc, List.cons_append, List.nil_append]
  obtain ⟨rfl, rfl, -⟩ := hcut.unique hlonger
  exact ⟨rfl, rfl⟩

/-- An argument is captured if there is one. -/
theorem IsArgument.prefers {rest : List Char} {argument : Option (List Char)}
    (hargument : IsArgument rest argument) (offset : Nat) (found : Captures) :
    ∃ taken more, rest = taken ++ more ∧
      (Pattern.optional (.group 3 CallbackForm.argumentPattern)).Prefers offset taken more found
        (argument.elim found fun text => (3, ⟨offset, text⟩) :: found) := by
  cases hargument with
  | @present space content more hcut =>
      refine ⟨parenthesized space content, more, ?_, ?_⟩
      · rw [hcut.rest_eq]
        simp only [parenthesized, List.append_assoc, List.cons_append, List.nil_append]
      · exact Pattern.prefers_left (Pattern.prefers_group 3 (hcut.prefers offset found))
  | absent hnone =>
      refine ⟨[], rest, rfl, Pattern.prefers_right ?_ (Pattern.prefers_empty offset rest found)⟩
      intro start behind within hsplit hmatches
      rw [Pattern.matches_group_iff] at hmatches
      obtain ⟨inner, hmatches, -⟩ := hmatches
      obtain ⟨⟨space, content, rfl, hcut⟩, -⟩ := matches_argumentPattern_iff.mp hmatches
      apply hnone space content behind
      refine ⟨?_, hcut.isBlank_space, hcut.nonempty, hcut.not_mem⟩
      rw [List.nil_append] at hsplit
      rw [hsplit]
      simp only [parenthesized, List.append_assoc, List.cons_append, List.nil_append]

namespace RoutineCut

variable {keyword : String} {line indent gap name rest : List Char}

theorem prefers_keyword (hkeyword : IsName keyword.toList)
    (hcut : RoutineCut keyword line indent gap name rest) :
    (Pattern.keyword keyword).Prefers 0 (indent ++ (keyword.toList ++ gap)) (name ++ rest) []
      [(1, ⟨indent.length, keyword.toList⟩)] :=
  hcut.toKeywordCut.prefers hkeyword (hcut.isName.not_isBlank_head? rest) []

theorem prefers_name (hcut : RoutineCut keyword line indent gap name rest) (offset : Nat)
    (found : Captures) :
    (Pattern.group 2 (.oneOrMore .nameChar)).Prefers offset name rest found
      ((2, ⟨offset, name⟩) :: found) :=
  Pattern.prefers_group 2 (Pattern.prefers_oneOrMore offset found hcut.isName.nonempty
    hcut.isName.isNameChar hcut.rest_closed)

theorem match?_function (hcut : RoutineCut "function" line indent gap name rest) :
    ∃ found, FunctionForm.pattern.match? line = some found ∧
      found.lookup 1 = some ⟨indent.length, "function".toList⟩ ∧ found.text? 2 = some name := by
  have hkeyword := hcut.prefers_keyword isName_function
  have hwhole := (Pattern.prefers_seq hkeyword (hcut.prefers_name _ _)).match?_eq
  refine ⟨_, Eq.trans ?_ hwhole, rfl, rfl⟩
  rw [hcut.line_eq, FunctionForm.pattern]
  simp only [List.append_assoc]

theorem match?_callback (hcut : RoutineCut "on" line indent gap name rest)
    {argument : Option (List Char)} (hargument : IsArgument rest argument) :
    ∃ found, CallbackForm.pattern.match? line = some found ∧
      found.lookup 1 = some ⟨indent.length, "on".toList⟩ ∧ found.text? 2 = some name ∧
      found.text? 3 = argument := by
  have hkeyword := hcut.prefers_keyword isName_on
  obtain ⟨taken, more, hrest, hoptional⟩ := hargument.prefers
    (0 + (indent ++ ("on".toList ++ gap)).length + name.length)
    [(2, ⟨0 + (indent ++ ("on".toList ++ gap)).length, name⟩), (1, ⟨indent.length, "on".toList⟩)]
  have hname := hcut.prefers_name (0 + (indent ++ ("on".toList ++ gap)).length)
    [(1, ⟨indent.length, "on".toList⟩)]
  rw [hrest, ← List.append_assoc name] at hkeyword
  rw [hrest] at hname
  have hwhole :=
    (Pattern.prefers_seq hkeyword (Pattern.prefers_seq hname hoptional)).match?_eq
  refine ⟨_, Eq.trans ?_ hwhole, ?_⟩
  · rw [hcut.line_eq, CallbackForm.pattern, hrest]
    simp only [List.append_assoc]
  · cases argument with
    | none => exact ⟨rfl, rfl, rfl⟩
    | some text => exact ⟨rfl, rfl, rfl⟩

end RoutineCut

theorem exists_routineCut_of_function {offset : Nat} {taken : List Char} {after : Captures}
    (hmatches : FunctionForm.pattern.Matches offset taken [] after) (more : List Char) :
    ∃ indent gap name rest, RoutineCut "function" (taken ++ more) indent gap name rest := by
  rw [FunctionForm.pattern, Pattern.matches_seq_iff] at hmatches
  obtain ⟨lead, start, _, rfl, hlead, hstart⟩ := hmatches
  simp only [Pattern.matches_group_iff, Pattern.matches_oneOrMore_iff] at hstart
  obtain ⟨_, ⟨⟨hnonempty, hstart⟩, -⟩, -⟩ := hstart
  obtain ⟨indent, gap, hkeyword⟩ := exists_keywordCut hlead (start ++ more)
  obtain ⟨name, rest, hcut⟩ := exists_routineCut hkeyword ⟨hnonempty, hstart⟩
  rw [← List.append_assoc] at hcut
  exact ⟨indent, gap, name, rest, hcut⟩

theorem exists_routineCut_of_callback {offset : Nat} {taken : List Char} {after : Captures}
    (hmatches : CallbackForm.pattern.Matches offset taken [] after) (more : List Char) :
    ∃ indent gap name rest, RoutineCut "on" (taken ++ more) indent gap name rest := by
  rw [CallbackForm.pattern, Pattern.matches_seq_iff] at hmatches
  obtain ⟨lead, behind, _, rfl, hlead, hbehind⟩ := hmatches
  simp only [Pattern.matches_seq_iff, Pattern.matches_group_iff,
    Pattern.matches_oneOrMore_iff] at hbehind
  obtain ⟨start, others, _, rfl, ⟨_, ⟨⟨hnonempty, hstart⟩, -⟩, -⟩, -⟩ := hbehind
  obtain ⟨indent, gap, hkeyword⟩ := exists_keywordCut hlead (start ++ (others ++ more))
  obtain ⟨name, rest, hcut⟩ := exists_routineCut hkeyword ⟨hnonempty, hstart⟩
  rw [List.append_assoc, List.append_assoc]
  exact ⟨indent, gap, name, rest, hcut⟩

theorem CallbackForm.read?_eq_some_iff {line : Line} {form : CallbackForm} :
    CallbackForm.read? line = some form ↔
      ∃ indent gap rest, RoutineCut "on" line indent gap form.name.toList rest ∧
        IsArgument rest form.argument := by
  have hread : ∀ {indent gap name rest : List Char} {argument : Option (List Char)},
      RoutineCut "on" line indent gap name rest → IsArgument rest argument →
      CallbackForm.read? line = some ⟨String.ofList name, argument⟩ := by
    intro indent gap name rest argument hcut hargument
    obtain ⟨found, hmatch, -, hname, htext⟩ := hcut.match?_callback hargument
    rw [CallbackForm.read?, hmatch]
    simp only [Option.bind_eq_bind, Option.bind_some, hname, htext]
  constructor
  · intro hform
    obtain ⟨found, hfound, -⟩ := Option.bind_eq_some_iff.mp hform
    obtain ⟨taken, more, rfl, hmatches⟩ := Pattern.exists_matches_of_matchAt? hfound
    obtain ⟨indent, gap, name, rest, hcut⟩ := exists_routineCut_of_callback hmatches more
    obtain ⟨argument, hargument⟩ := exists_isArgument rest
    have hsame := hform.symm.trans (hread hcut hargument)
    cases hsame
    refine ⟨indent, gap, rest, ?_, hargument⟩
    rw [String.toList_ofList]
    exact hcut
  · rintro ⟨indent, gap, rest, hcut, hargument⟩
    rw [hread hcut hargument, String.ofList_toList]

theorem CallbackForm.keywordColumn_eq {line : Line} {form : CallbackForm}
    (hform : read? line = some form) : pattern.keywordColumn line = margin line := by
  obtain ⟨indent, gap, rest, hcut, hargument⟩ := read?_eq_some_iff.mp hform
  obtain ⟨found, hmatch, hkeyword, -⟩ := hcut.match?_callback hargument
  exact hcut.toKeywordCut.keywordColumn_eq isName_on hmatch hkeyword

theorem FunctionForm.read?_eq_some_iff {line : Line} {form : FunctionForm} :
    FunctionForm.read? line = some form ↔
      ∃ indent gap rest, RoutineCut "function" line indent gap form.name.toList rest := by
  have hread : ∀ {indent gap name rest : List Char},
      RoutineCut "function" line indent gap name rest →
      FunctionForm.read? line = some ⟨String.ofList name⟩ := by
    intro indent gap name rest hcut
    obtain ⟨found, hmatch, -, hname⟩ := hcut.match?_function
    rw [FunctionForm.read?, hmatch]
    simp only [Option.bind_eq_bind, Option.bind_some, hname]
  constructor
  · intro hform
    obtain ⟨found, hfound, -⟩ := Option.bind_eq_some_iff.mp hform
    obtain ⟨taken, more, rfl, hmatches⟩ := Pattern.exists_matches_of_matchAt? hfound
    obtain ⟨indent, gap, name, rest, hcut⟩ := exists_routineCut_of_function hmatches more
    have hsame := hform.symm.trans (hread hcut)
    cases hsame
    refine ⟨indent, gap, rest, ?_⟩
    rw [String.toList_ofList]
    exact hcut
  · rintro ⟨indent, gap, rest, hcut⟩
    rw [hread hcut, String.ofList_toList]

theorem FunctionForm.keywordColumn_eq {line : Line} {form : FunctionForm}
    (hform : read? line = some form) : pattern.keywordColumn line = margin line := by
  obtain ⟨indent, gap, rest, hcut⟩ := read?_eq_some_iff.mp hform
  obtain ⟨found, hmatch, hkeyword, -⟩ := hcut.match?_function
  exact hcut.toKeywordCut.keywordColumn_eq isName_function hmatch hkeyword

end KontaktScript

import KontaktScript.Declaration.Form
import KontaktScript.Proofs.Word

/-!
# Lines cut into the parts of a form

A line that declares something can be cut into the parts that the forms of
declarations name: white space, a keyword, more white space, of a variable a
qualifier and a sigil, and the declared name.  Where there are several ways to cut a
line, they differ only in how they share out white space.
-/

namespace KontaktScript

open Text

theorem toNat_lt_of_isNameChar {c : Char} (hc : isNameChar c = true) : c.toNat < 128 := by
  have hbound : c.val ≤ 'z'.val := by
    rw [isNameChar, Bool.or_eq_true, beq_iff_eq] at hc
    rcases hc with halphanum | rfl
    · rcases Bool.or_eq_true_iff.mp halphanum with halpha | hdigit
      · rcases Bool.or_eq_true_iff.mp halpha with hupper | hlower
        · exact UInt32.le_trans (of_decide_eq_true hupper).2 (by decide)
        · exact of_decide_eq_true (Bool.and_eq_true_iff.mp hlower).2
      · have hnine : c.val ≤ '9'.val := of_decide_eq_true (Bool.and_eq_true_iff.mp hdigit).2
        exact UInt32.le_trans hnine (by decide)
    · decide
  exact Nat.lt_of_le_of_lt (UInt32.le_iff_toNat_le.mp hbound) (by decide)

/-- Characters of names end no word and are no sigils. -/
theorem isInner_of_isNameChar {c : Char} (hc : isNameChar c = true) :
    Word.isInner c = true ∧ VarType.ofSigil? c = none := by
  have hascii : ∀ n < 128, isNameChar (Char.ofNat n) = true →
      Word.isInner (Char.ofNat n) = true ∧ VarType.ofSigil? (Char.ofNat n) = none := by
    decide +kernel
  have hchecked := hascii c.toNat (toNat_lt_of_isNameChar hc)
  rw [Char.ofNat_toNat] at hchecked
  exact hchecked hc

theorem not_isBlank_of_isNameChar {c : Char} (hc : isNameChar c = true) : isBlank c = false :=
  Word.not_isBlank_of_isInner (isInner_of_isNameChar hc).1

theorem not_isNameChar_of_isBlank {c : Char} (hc : isBlank c = true) : isNameChar c = false := by
  cases hname : isNameChar c with
  | false => rfl
  | true =>
      rw [not_isBlank_of_isNameChar hname] at hc
      cases hc

/-- What is left of a text without a run at its start does not go on with the run. -/
theorem Text.head?_dropWhile_eq_false (p : Char → Bool) (text : List Char) :
    ∀ c ∈ (text.dropWhile p).head?, p c = false := by
  intro c hc
  have hhead := List.head?_dropWhile_not p text
  rw [hc] at hhead
  simpa using hhead

theorem Text.not_isBlank_head?_trimLeft (text : List Char) :
    ∀ c ∈ (trimLeft text).head?, isBlank c = false :=
  head?_dropWhile_eq_false isBlank text

theorem VarType.isInner_sigil (type : VarType) : Word.isInner type.sigil = true := by
  cases type <;> decide

theorem VarType.isNameChar_sigil (type : VarType) : isNameChar type.sigil = false := by
  cases type <;> decide

theorem VarType.not_isBlank_head? (type : VarType) (rest : List Char) :
    ∀ c ∈ (type.sigil :: rest).head?, isBlank c = false := by
  rintro c ⟨⟩
  exact Word.not_isBlank_of_isInner type.isInner_sigil

theorem VarType.not_isNameChar_head? (type : VarType) (rest : List Char) :
    ∀ c ∈ (type.sigil :: rest).head?, isNameChar c = false := by
  rintro c ⟨⟩
  exact type.isNameChar_sigil

theorem isIdentifierChar_of_isNameChar {c : Char} (hc : isNameChar c = true) :
    Token.isIdentifierChar c = true := by
  rw [Token.isIdentifierChar, hc, Bool.true_or]

theorem VarType.isIdentifierChar_sigil (type : VarType) :
    Token.isIdentifierChar type.sigil = true := by
  cases type <;> decide

/-- What can stand in an identifier ends no word. -/
theorem isInner_of_isIdentifierChar {c : Char} (hc : Token.isIdentifierChar c = true) :
    Word.isInner c = true := by
  rw [Token.isIdentifierChar, Bool.or_eq_true] at hc
  rcases hc with hname | hsigil
  · exact (isInner_of_isNameChar hname).1
  · obtain ⟨type, htype⟩ := Option.isSome_iff_exists.mp hsigil
    rw [← VarType.ofSigil?_eq_some_iff.mp htype]
    exact type.isInner_sigil

namespace Text

/-- A run of characters of a class, up to a character of another. -/
theorem takeWhile_append_run {p : Char → Bool} {run rest : List Char}
    (hrun : ∀ c ∈ run, p c = true) (hrest : ∀ c ∈ rest.head?, p c = false) :
    (run ++ rest).takeWhile p = run ∧ (run ++ rest).dropWhile p = rest := by
  rw [List.takeWhile_append_of_pos hrun, List.dropWhile_append_of_pos hrun]
  cases rest with
  | nil => exact ⟨List.append_nil run, rfl⟩
  | cons c rest =>
      have hc : ¬ p c = true := by
        rw [hrest c rfl]
        exact Bool.false_ne_true
      rw [List.takeWhile_cons_of_neg hc, List.dropWhile_cons_of_neg hc]
      exact ⟨List.append_nil run, rfl⟩

theorem trimLeft_eq_self {text : List Char} (htext : ∀ c ∈ text.head?, isBlank c = false) :
    trimLeft text = text :=
  (takeWhile_append_run (List.forall_mem_nil _) htext).2

end Text

/-- A text that can be declared as a name. -/
structure IsName (name : List Char) : Prop where
  nonempty : name ≠ []
  isNameChar : ∀ c ∈ name, isNameChar c = true

theorem IsName.not_isBlank_head? {name : List Char} (hname : IsName name) (rest : List Char) :
    ∀ c ∈ (name ++ rest).head?, isBlank c = false := by
  intro c hc
  obtain ⟨first, tail, rfl⟩ := List.exists_cons_of_ne_nil hname.nonempty
  cases hc
  exact not_isBlank_of_isNameChar (hname.isNameChar _ List.mem_cons_self)

theorem IsName.append_run {start : List Char} (hstart : IsName start) (more : List Char) :
    IsName (start ++ more.takeWhile Text.isNameChar) where
  nonempty := List.append_ne_nil_of_left_ne_nil hstart.nonempty _
  isNameChar := by
    rw [List.forall_mem_append]
    exact ⟨hstart.isNameChar, fun c hc => List.mem_takeWhile_imp hc⟩

theorem isName_of_all {name : List Char} (hnonempty : name ≠ [])
    (hname : name.all isNameChar = true) : IsName name :=
  ⟨hnonempty, List.all_eq_true.mp hname⟩

theorem isName_declare : IsName "declare".toList :=
  isName_of_all (by decide) (by decide)

theorem isName_on : IsName "on".toList :=
  isName_of_all (by decide) (by decide)

theorem isName_function : IsName "function".toList :=
  isName_of_all (by decide) (by decide)

theorem not_isNameChar_head?_append {blanks rest : List Char}
    (hblanks : ∀ c ∈ blanks, isBlank c = true) (hrest : ∀ c ∈ rest.head?, isNameChar c = false) :
    ∀ c ∈ (blanks ++ rest).head?, isNameChar c = false := by
  cases blanks with
  | nil => exact hrest
  | cons blank blanks =>
      rintro c ⟨⟩
      exact not_isNameChar_of_isBlank (hblanks blank List.mem_cons_self)

/-- What may stand between `declare` and a variable. -/
inductive IsQualifier : List Char → Prop where
  | plain : IsQualifier []
  | const : IsQualifier "const".toList
  | polyphonic : IsQualifier "polyphonic".toList
  | ui {name : List Char} (hname : IsName name) : IsQualifier ("ui_".toList ++ name)

/-- The white space at the start of a line. -/
def margin (line : Line) : Nat :=
  (line.takeWhile isBlank).length

/-- A line cut behind a keyword, which white space surrounds. -/
structure KeywordCut (keyword : String) (line indent gap rest : List Char) : Prop where
  line_eq : line = indent ++ keyword.toList ++ gap ++ rest
  isBlank_indent : ∀ c ∈ indent, isBlank c = true
  isBlank_gap : ∀ c ∈ gap, isBlank c = true
  gap_nonempty : gap ≠ []

/-- A line that declares a callback or a function: a name follows the keyword. -/
structure RoutineCut (keyword : String) (line indent gap name rest : List Char) : Prop extends
    KeywordCut keyword line indent gap (name ++ rest) where
  isName : IsName name
  rest_closed : ∀ c ∈ rest.head?, isNameChar c = false

/-- A line that declares a variable: a qualifier, white space, a sigil and a name
follow the keyword. -/
structure VariableCut (line indent gap qualifier space : List Char) (type : VarType)
    (name rest : List Char) : Prop extends
    KeywordCut "declare" line indent gap
      (qualifier ++ space ++ (type.sigil :: name) ++ rest) where
  isQualifier : IsQualifier qualifier
  isBlank_space : ∀ c ∈ space, isBlank c = true
  isName : IsName name
  rest_closed : ∀ c ∈ rest.head?, isNameChar c = false

/-- What follows a callback's name, cut around an argument in parentheses. -/
structure ArgumentCut (rest space content more : List Char) : Prop where
  rest_eq : rest = space ++ '(' :: (content ++ ')' :: more)
  isBlank_space : ∀ c ∈ space, isBlank c = true
  nonempty : content ≠ []
  not_mem : ')' ∉ content

/-- A name that goes on is a part of a longer one. -/
theorem exists_routineCut {keyword : String} {line indent gap start more : List Char}
    (hcut : KeywordCut keyword line indent gap (start ++ more)) (hstart : IsName start) :
    ∃ name rest, RoutineCut keyword line indent gap name rest := by
  have hsplit : start ++ more =
      (start ++ more.takeWhile isNameChar) ++ more.dropWhile isNameChar := by
    rw [List.append_assoc, List.takeWhile_append_dropWhile]
  rw [hsplit] at hcut
  refine ⟨_, _, hcut, hstart.append_run more, head?_dropWhile_eq_false isNameChar more⟩

/-- The text of an argument: the parentheses and what stands in them, behind white space. -/
def parenthesized (space content : List Char) : List Char :=
  space ++ '(' :: (content ++ [')'])

namespace KeywordCut

variable {keyword other : String} {line indent gap rest : List Char}

theorem dropWhile_eq (hkeyword : IsName keyword.toList)
    (hcut : KeywordCut keyword line indent gap rest) :
    line.takeWhile isBlank = indent ∧ line.dropWhile isBlank = keyword.toList ++ (gap ++ rest) := by
  rw [hcut.line_eq, List.append_assoc, List.append_assoc]
  exact takeWhile_append_run hcut.isBlank_indent (hkeyword.not_isBlank_head? (gap ++ rest))

theorem margin_eq (hkeyword : IsName keyword.toList)
    (hcut : KeywordCut keyword line indent gap rest) : margin line = indent.length := by
  rw [margin, (hcut.dropWhile_eq hkeyword).1]

theorem dropWhile_behind (hkeyword : IsName keyword.toList)
    (hcut : KeywordCut keyword line indent gap rest) :
    ((line.dropWhile isBlank).drop keyword.toList.length).dropWhile isBlank =
      rest.dropWhile isBlank := by
  rw [(hcut.dropWhile_eq hkeyword).2, List.drop_left,
    List.dropWhile_append_of_pos hcut.isBlank_gap]

/-- The keyword is the first word of the line. -/
theorem takeWhile_eq (hkeyword : IsName keyword.toList)
    (hcut : KeywordCut keyword line indent gap rest) :
    (line.dropWhile isBlank).takeWhile isNameChar = keyword.toList := by
  obtain ⟨blank, blanks, rfl⟩ := List.exists_cons_of_ne_nil hcut.gap_nonempty
  have hend : ∀ c ∈ (blank :: blanks ++ rest).head?, isNameChar c = false := by
    rintro c ⟨⟩
    exact not_isNameChar_of_isBlank (hcut.isBlank_gap blank List.mem_cons_self)
  rw [(hcut.dropWhile_eq hkeyword).2]
  exact (takeWhile_append_run hkeyword.isNameChar hend).1

/-- So a line starts with one keyword only. -/
theorem keyword_unique (hkeyword : IsName keyword.toList) (hother : IsName other.toList)
    (hcut : KeywordCut keyword line indent gap rest) {indent' gap' rest' : List Char}
    (hcut' : KeywordCut other line indent' gap' rest') : keyword = other := by
  apply String.toList_injective
  rw [← hcut.takeWhile_eq hkeyword, hcut'.takeWhile_eq hother]

end KeywordCut

theorem IsQualifier.isNameChar {qualifier : List Char} (hqualifier : IsQualifier qualifier) :
    ∀ c ∈ qualifier, isNameChar c = true := by
  cases hqualifier with
  | plain => exact List.forall_mem_nil _
  | const => exact List.all_eq_true.mp (by decide)
  | polyphonic => exact List.all_eq_true.mp (by decide)
  | ui hname =>
      rw [List.forall_mem_append]
      exact ⟨List.all_eq_true.mp (by decide), hname.isNameChar⟩

theorem IsQualifier.ofWord?_ui {name : List Char} (hname : IsName name) :
    Qualifier.ofWord? ("ui_".toList ++ name) =
      some (.ui (String.ofList ("ui_".toList ++ name))) := by
  obtain ⟨first, tail, rfl⟩ := List.exists_cons_of_ne_nil hname.nonempty
  rfl

theorem IsQualifier.exists_ofWord? {qualifier : List Char} (hqualifier : IsQualifier qualifier) :
    ∃ read, Qualifier.ofWord? qualifier = some read := by
  cases hqualifier with
  | plain => exact ⟨.plain, rfl⟩
  | const => exact ⟨.const, rfl⟩
  | polyphonic => exact ⟨.polyphonic, rfl⟩
  | ui hname => exact ⟨_, ofWord?_ui hname⟩

namespace VariableCut

variable {line indent gap qualifier space name rest : List Char} {type : VarType}

/-- Without a qualifier all white space up to the sigil belongs together. -/
theorem gather (hcut : VariableCut line indent gap [] space type name rest) :
    VariableCut line indent (gap ++ space) [] [] type name rest where
  line_eq := by
    rw [hcut.line_eq]
    simp only [List.append_assoc, List.nil_append]
  isBlank_indent := hcut.isBlank_indent
  isBlank_gap := List.forall_mem_append.mpr ⟨hcut.isBlank_gap, hcut.isBlank_space⟩
  gap_nonempty := List.append_ne_nil_of_left_ne_nil hcut.gap_nonempty space
  isQualifier := hcut.isQualifier
  isBlank_space := List.forall_mem_nil _
  isName := hcut.isName
  rest_closed := hcut.rest_closed

/-- A cut gives the parts of a line: the qualifier is the run of characters of names
behind the keyword, and the sigil follows it but for white space. -/
theorem parts_eq (hcut : VariableCut line indent gap qualifier space type name rest) :
    let tail := ((line.dropWhile isBlank).drop "declare".toList.length).dropWhile isBlank
    tail.takeWhile isNameChar = qualifier ∧
      (tail.dropWhile isNameChar).dropWhile isBlank = type.sigil :: (name ++ rest) := by
  intro tail
  have htail :
      tail = (qualifier ++ (space ++ (type.sigil :: (name ++ rest)))).dropWhile isBlank := by
    have hbehind := hcut.toKeywordCut.dropWhile_behind isName_declare
    simpa only [List.append_assoc, List.cons_append] using hbehind
  have hskip := (takeWhile_append_run hcut.isBlank_space (type.not_isBlank_head? (name ++ rest))).2
  by_cases hplain : qualifier = []
  · have hstop :=
      takeWhile_append_run (List.forall_mem_nil _) (type.not_isNameChar_head? (name ++ rest))
    have hstay :=
      takeWhile_append_run (List.forall_mem_nil _) (type.not_isBlank_head? (name ++ rest))
    rw [List.nil_append] at hstop hstay
    rw [htail, hplain, List.nil_append, hskip, hstop.1, hstop.2]
    exact ⟨rfl, hstay.2⟩
  · have hword : IsName qualifier := ⟨hplain, hcut.isQualifier.isNameChar⟩
    have hstay := trimLeft_eq_self
      (hword.not_isBlank_head? (space ++ (type.sigil :: (name ++ rest))))
    rw [trimLeft] at hstay
    have hrun := takeWhile_append_run hword.isNameChar
      (not_isNameChar_head?_append hcut.isBlank_space (type.not_isNameChar_head? (name ++ rest)))
    rw [htail, hstay, hrun.1, hrun.2]
    exact ⟨rfl, hskip⟩

/-- Two cuts of a line differ only in how they share out white space. -/
theorem unique (hcut : VariableCut line indent gap qualifier space type name rest)
    {indent' gap' qualifier' space' name' rest' : List Char} {type' : VarType}
    (hcut' : VariableCut line indent' gap' qualifier' space' type' name' rest') :
    qualifier' = qualifier ∧ type' = type ∧ name' = name ∧ rest' = rest := by
  obtain ⟨hqualifier, hsigil⟩ := hcut.parts_eq
  obtain ⟨hqualifier', hsigil'⟩ := hcut'.parts_eq
  obtain ⟨hsame, hbehind⟩ := List.cons.inj (hsigil'.symm.trans hsigil)
  have htype : type' = type := by
    apply Option.some.inj
    rw [← VarType.ofSigil?_sigil type', hsame, VarType.ofSigil?_sigil]
  have hname := takeWhile_append_run hcut.isName.isNameChar hcut.rest_closed
  have hname' := takeWhile_append_run hcut'.isName.isNameChar hcut'.rest_closed
  rw [hbehind] at hname'
  exact ⟨hqualifier'.symm.trans hqualifier, htype, hname'.1.symm.trans hname.1,
    hname'.2.symm.trans hname.2⟩

end VariableCut

theorem ArgumentCut.unique {rest space content more : List Char}
    (hcut : ArgumentCut rest space content more) {space' content' more' : List Char}
    (hcut' : ArgumentCut rest space' content' more') :
    space' = space ∧ content' = content ∧ more' = more := by
  have hparts : ∀ {space content more : List Char}, ArgumentCut rest space content more →
      rest.takeWhile isBlank = space ∧
        (rest.dropWhile isBlank).tail.takeWhile (· != ')') = content ∧
        (rest.dropWhile isBlank).tail.dropWhile (· != ')') = ')' :: more := by
    intro space content more hcut
    have hopen : ∀ c ∈ ('(' :: (content ++ ')' :: more)).head?, isBlank c = false := by
      rintro c ⟨⟩
      decide
    have hrun : ∀ c ∈ content, (c != ')') = true := by
      intro c hc
      rw [bne_iff_ne]
      rintro rfl
      exact hcut.not_mem hc
    obtain ⟨htake, hdrop⟩ := takeWhile_append_run hcut.isBlank_space hopen
    rw [hcut.rest_eq, htake, hdrop, List.tail_cons]
    exact ⟨rfl, takeWhile_append_run hrun (by simp)⟩
  obtain ⟨hspace, hcontent, hmore⟩ := hparts hcut
  obtain ⟨hspace', hcontent', hmore'⟩ := hparts hcut'
  exact ⟨hspace'.symm.trans hspace, hcontent'.symm.trans hcontent,
    (List.cons.inj (hmore'.symm.trans hmore)).2⟩

/-- What is captured as the argument of a callback whose name a text follows. -/
inductive IsArgument (rest : List Char) : Option (List Char) → Prop where
  | present {space content more : List Char} (hcut : ArgumentCut rest space content more) :
      IsArgument rest (some (parenthesized space content))
  | absent (hnone : ∀ space content more, ¬ ArgumentCut rest space content more) :
      IsArgument rest none

theorem exists_isArgument (rest : List Char) : ∃ argument, IsArgument rest argument := by
  by_cases hcut : ∃ space content more, ArgumentCut rest space content more
  · obtain ⟨space, content, more, hcut⟩ := hcut
    exact ⟨_, .present hcut⟩
  · refine ⟨none, .absent ?_⟩
    intro space content more hother
    exact hcut ⟨space, content, more, hother⟩

end KontaktScript

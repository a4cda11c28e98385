import KontaktScript.Feature.Reference
import KontaktScript.Proofs.Column
import KontaktScript.Proofs.Token

/-!
# The identifier at a position

There is an identifier at an editor's position just if the line can be cut
around one, next to which no quote stands, such that the column lies from its
start to its end.  The columns are those of the editor, although the identifier
is looked for by characters: a column inside a surrogate pair belongs to no
identifier, as a character of two units is neither part of one nor a boundary.
-/

namespace KontaktScript

open Text

/-- Every character that ends a word takes one code unit. -/
theorem Word.units_eq_one {c : Char} (hc : Word.isInner c = false) : Utf16.units c = 1 := by
  rw [isInner, isBoundary, Bool.not_eq_false', Bool.or_eq_true] at hc
  rcases hc with hblank | hdelimiter
  · have hsmall : c.toNat < 0x10000 := by
      simp [isBlank, blankRanges] at hblank
      omega
    rw [Utf16.units, if_pos hsmall]
  · have hunits : delimiters.all (Utf16.units · = 1) = true := by decide
    exact of_decide_eq_true (List.all_eq_true.mp hunits c (List.contains_iff_mem.mp hdelimiter))

theorem Word.IsCut.units_getLast? {before word behind : List Char}
    (hcut : Word.IsCut before word behind) : ∀ c ∈ before.getLast?, Utf16.units c = 1 := by
  intro c hc
  have hclosed := hcut.before_closed
  rw [Option.mem_def.mp hc, Option.any_some] at hclosed
  exact Word.units_eq_one hclosed

/-- A column is read as a character in a word or directly behind it just if it
lies from the word's first column to its last. -/
theorem Word.IsCut.ofColumn_mem_iff {before word behind : List Char}
    (hcut : Word.IsCut before word behind) (character : Nat) :
    let line := before ++ word ++ behind
    let column := min character (Utf16.length line)
    (before.length ≤ Utf16.ofColumn line character ∧
        Utf16.ofColumn line character ≤ before.length + word.length) ↔
      (Utf16.length before ≤ column ∧ column ≤ Utf16.length (before ++ word)) := by
  intro line column
  have hstop := Utf16.ofColumn_append_le_iff (before ++ word) behind character
  rw [List.length_append] at hstop
  have hstart : before.length ≤ Utf16.ofColumn line character ↔
      Utf16.length before ≤ column := by
    have hline : line = before ++ (word ++ behind) := List.append_assoc before word behind
    constructor
    · intro hfrom
      simp only [column, hline] at hfrom ⊢
      exact Utf16.utf16Length_le_min hcut.units_getLast? hfrom
    · intro hfrom
      rw [hline]
      exact Utf16.length_le_ofColumn (Nat.le_trans hfrom (Nat.min_le_left _ _))
  exact and_congr hstart hstop

/-- A cut of a line around an identifier, next to which no quote stands. -/
structure IsIdentifierCut (before word behind : List Char) : Prop
    extends Word.IsCut before word behind where
  nonempty : word ≠ []
  isIdentifierChar : ∀ c ∈ word, Token.isIdentifierChar c = true
  before_unquoted : before.getLast? ≠ some '"'
  behind_unquoted : behind.head? ≠ some '"'

theorem Word.leadingQuote_eq_nil_iff {text : List Char} :
    Word.leadingQuote text = [] ↔ text.head? ≠ some '"' := by
  rw [Word.leadingQuote_eq]
  split_ifs with hquote
  · simp [hquote]
  · simp [hquote]

theorem IsIdentifierCut.quoted_eq {before word behind : List Char}
    (hcut : IsIdentifierCut before word behind) :
    Word.leadingQuote before.reverse ++ word ++ Word.leadingQuote behind = word := by
  have hbefore : Word.leadingQuote before.reverse = [] := by
    rw [Word.leadingQuote_eq_nil_iff, List.head?_reverse]
    exact hcut.before_unquoted
  have hbehind : Word.leadingQuote behind = [] :=
    Word.leadingQuote_eq_nil_iff.mpr hcut.behind_unquoted
  rw [hbefore, hbehind, List.nil_append, List.append_nil]

/-- The text of a token is its word with the quotes next to it. -/
theorem Token.text_ofCut {before word behind : List Char} (number : UInt32)
    (hlength : (before ++ word ++ behind).length < UInt32.size) :
    (Token.ofCut number before word behind).text =
      String.ofList (Word.leadingQuote before.reverse ++ word ++ Word.leadingQuote behind) := by
  simp only [List.length_append] at hlength
  have hstart : before.length.toUInt32.toNat = before.length :=
    UInt32.toNat_ofNat_of_lt' (by omega)
  have hstop : (before.length + word.length).toUInt32.toNat = before.length + word.length :=
    UInt32.toNat_ofNat_of_lt' (by omega)
  rw [Token.ofCut, Token.ofRun, hstart, hstop, Word.quoted_append]

theorem isIdentifier_of_forall {text : String}
    (htext : ∀ c ∈ text.toList, Token.isIdentifierChar c = true) : isIdentifier text = true := by
  rw [isIdentifier, Bool.and_eq_true, bne_iff_ne, List.all_eq_true]
  refine ⟨?_, htext⟩
  intro hquote
  have hchar := htext '"' (List.mem_of_mem_head? hquote)
  exact absurd hchar (by decide)

/-- A word is an identifier just if all its characters may stand in one and no
quote stands next to it. -/
theorem Word.IsCut.isIdentifier_iff {before word behind : List Char}
    (hcut : Word.IsCut before word behind) (hword : word ≠ []) :
    isIdentifier (String.ofList
        (Word.leadingQuote before.reverse ++ word ++ Word.leadingQuote behind)) = true ↔
      IsIdentifierCut before word behind := by
  have hquote : ∀ text, (∀ c ∈ Word.leadingQuote text, Token.isIdentifierChar c = true) →
      text.head? ≠ some '"' := by
    intro text htext
    rw [← Word.leadingQuote_eq_nil_iff]
    rw [Word.leadingQuote_eq] at htext ⊢
    split_ifs at htext ⊢
    · exact absurd (htext '"' List.mem_cons_self) (by decide)
    · rfl
  constructor
  · intro hidentifier
    rw [isIdentifier, String.toList_ofList, Bool.and_eq_true, List.all_eq_true] at hidentifier
    have hchars := hidentifier.2
    refine ⟨hcut, hword, ?_, ?_, ?_⟩
    · intro c hc
      exact hchars c (List.mem_append_left _ (List.mem_append_right _ hc))
    · rw [← List.head?_reverse]
      apply hquote
      intro c hc
      exact hchars c (List.mem_append_left _ (List.mem_append_left _ hc))
    · apply hquote
      intro c hc
      exact hchars c (List.mem_append_right _ hc)
  · intro hidentifier
    apply isIdentifier_of_forall
    rw [String.toList_ofList, hidentifier.quoted_eq]
    exact hidentifier.isIdentifierChar

/-- The token of an identifier on a line. -/
def Token.ofWord (number : UInt32) (before word : List Char) : Token where
  text := String.ofList word
  span := ⟨⟨number, before.length.toUInt32⟩, ⟨number, (before.length + word.length).toUInt32⟩⟩

theorem IsIdentifierCut.ofCut_eq {before word behind : List Char}
    (hcut : IsIdentifierCut before word behind) (number : UInt32)
    (hlength : (before ++ word ++ behind).length < UInt32.size) :
    Token.ofCut number before word behind = Token.ofWord number before word := by
  have htext := Token.text_ofCut number hlength
  rw [hcut.quoted_eq] at htext
  rw [Token.ofWord, ← htext]
  rfl

/-- An editor's column from the first column of an identifier to its last, the
line's end taken for columns past it. -/
def IsIdentifierCut.Covers (before word behind : List Char) (character : Nat) : Prop :=
  let column := min character (Utf16.length (before ++ word ++ behind))
  Utf16.length before ≤ column ∧ column ≤ Utf16.length (before ++ word)

section Position

variable {doc : Document} {position : Position}

theorem exists_isIdentifierCut_of_identifierAt? (hnarrow : doc.IsNarrow) {token : Token}
    (hidentifier : identifierAt? doc position = some token) :
    ∃ before word behind, IsIdentifierCut before word behind ∧
      doc.line? position.line.toNat = some (before ++ word ++ behind) ∧
      IsIdentifierCut.Covers before word behind position.character.toNat ∧
      token = Token.ofWord position.line before word := by
  obtain ⟨htoken, htext⟩ := Option.filter_eq_some_iff.mp hidentifier
  have hsome : (Token.at? doc (doc.pointOf position)).isSome = true := by
    rw [htoken, Option.isSome_some]
  obtain ⟨line, hline, offset, hanchor⟩ := Token.exists_isAnchor_of_isSome_at? hsome
  obtain ⟨before, word, behind, hcut, rfl, hfirst, hlast, hfrom, hto⟩ :=
    Token.exists_isCut_of_isAnchor hanchor
  change doc.line? position.line.toNat = _ at hline
  have hlength := hnarrow.length_line?_lt hline
  have hword : word ≠ [] := by
    rintro rfl
    rw [List.length_nil] at hlast
    omega
  have hcutToken := Token.at?_eq_some_ofCut hline hlength hcut hword hfrom hto
  obtain rfl : Token.ofCut position.line before word behind = token :=
    Option.some.inj (hcutToken.symm.trans htoken)
  rw [Token.text_ofCut position.line hlength] at htext
  have hidentifierCut := (hcut.isIdentifier_iff hword).mp htext
  rw [Document.toNat_column_pointOf hnarrow, Document.lineText_of_line? hline] at hfrom hto
  exact ⟨before, word, behind, hidentifierCut, hline,
    (hcut.ofColumn_mem_iff position.character.toNat).mp ⟨hfrom, hto⟩,
    hidentifierCut.ofCut_eq position.line hlength⟩

theorem IsIdentifierCut.identifierAt?_eq (hnarrow : doc.IsNarrow)
    {before word behind : List Char} (hcut : IsIdentifierCut before word behind)
    (hline : doc.line? position.line.toNat = some (before ++ word ++ behind))
    (hcovers : IsIdentifierCut.Covers before word behind position.character.toNat) :
    identifierAt? doc position = some (Token.ofWord position.line before word) := by
  have hlength := hnarrow.length_line?_lt hline
  obtain ⟨hfrom, hto⟩ := (hcut.ofColumn_mem_iff position.character.toNat).mpr hcovers
  rw [← Document.lineText_of_line? hline, ← Document.toNat_column_pointOf hnarrow] at hfrom hto
  have htoken := Token.at?_eq_some_ofCut hline hlength hcut.toIsCut hcut.nonempty hfrom hto
  have htext := (hcut.toIsCut.isIdentifier_iff hcut.nonempty).mpr hcut
  rw [← Token.text_ofCut position.line hlength] at htext
  rw [hcut.ofCut_eq position.line hlength] at htoken htext
  exact Option.filter_eq_some_iff.mpr ⟨htoken, htext⟩

/-- There is an identifier at a position just if the line can be cut around it
and the column lies from its first column to its last. -/
theorem identifierAt?_eq_some_iff (hnarrow : doc.IsNarrow) {token : Token} :
    identifierAt? doc position = some token ↔
      ∃ before word behind, IsIdentifierCut before word behind ∧
        doc.line? position.line.toNat = some (before ++ word ++ behind) ∧
        IsIdentifierCut.Covers before word behind position.character.toNat ∧
        token = Token.ofWord position.line before word := by
  constructor
  · exact exists_isIdentifierCut_of_identifierAt? hnarrow
  · rintro ⟨before, word, behind, hcut, hline, hcovers, rfl⟩
    exact hcut.identifierAt?_eq hnarrow hline hcovers

end Position

end KontaktScript
